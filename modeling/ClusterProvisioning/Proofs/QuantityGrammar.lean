import Mathlib.Data.Nat.Log
import ClusterProvisioning.Proofs.PlanContainers

/-!
# The grammar of quantities

A quantity is a decimal number and a suffix with blank characters around them (`Written`). Nothing
else is read as one, and of what is written in this form, without a minus sign, only what is too
large or no whole number is refused (`quantities_follow_grammar`). The number ends where the first
character stands that is no digit, point or sign, and no suffix begins with one of these, so the
two halves of a text are told apart by its characters alone.
-/

namespace ClusterProvisioning.Proofs

/-- An optional sign, and whether it is a minus sign. -/
inductive Sign : Bool → List Char → Prop where
  | absent : Sign false []
  | plus : Sign false ['+']
  | minus : Sign true ['-']

def Digits (cs : List Char) : Prop := ∀ c ∈ cs, c.isDigit = true

/-- Decimal digits with at most one point and at least one digit. -/
inductive Numeral : List Char → Prop where
  | whole {digits : List Char} (decimal : Digits digits) (filled : digits ≠ []) : Numeral digits
  | pointed {before after : List Char} (decimal : Digits before) (fraction : Digits after)
      (filled : before ++ after ≠ []) : Numeral (before ++ '.' :: after)

def suffixNames : List String :=
  ["", "n", "u", "m", "k", "M", "G", "T", "P", "E", "Ki", "Mi", "Gi", "Ti", "Pi", "Ei"]

def signed (negative : Bool) (n : Nat) : Int := if negative then -n else n

def InRange (n : Int) : Prop := Int32.minValue.toInt ≤ n ∧ n ≤ Int32.maxValue.toInt

/-- A name of a suffix, or an exponent in the range of 32-bit integers. -/
inductive Suffix : List Char → Prop where
  | name {cs : List Char} (listed : String.ofList cs ∈ suffixNames) : Suffix cs
  | exponent {mark : Char} {negative : Bool} {sign digits : List Char}
      (marked : mark = 'e' ∨ mark = 'E') (optional : Sign negative sign) (decimal : Digits digits)
      (filled : digits ≠ [])
      (range : InRange (signed negative (Text.digitsValue digits))) :
      Suffix (mark :: (sign ++ digits))

/-- A number and a suffix, and whether the number has a minus sign. -/
inductive Written (negative : Bool) : List Char → Prop where
  | of {sign numeral suffix : List Char} (optional : Sign negative sign) (number : Numeral numeral)
      (unit : Suffix suffix) : Written negative (sign ++ numeral ++ suffix)

/-! ### Numbers -/

theorem Numeral.chars {cs : List Char} (h : Numeral cs) : ∀ c ∈ cs, c.isDigit = true ∨ c = '.' := by
  intro c hc
  cases h with
  | whole decimal => exact .inl (decimal c hc)
  | pointed decimal fraction =>
    rcases List.mem_append.mp hc with hc | hc
    · exact .inl (decimal c hc)
    · rcases List.mem_cons.mp hc with rfl | hc
      · exact .inr rfl
      · exact .inl (fraction c hc)

theorem Numeral.ne_nil {cs : List Char} (h : Numeral cs) : cs ≠ [] := by
  cases h with
  | whole _ filled => exact filled
  | pointed => exact List.append_ne_nil_of_right_ne_nil _ (List.cons_ne_nil _ _)

theorem Written.ne_nil {negative : Bool} {cs : List Char} (h : Written negative cs) : cs ≠ [] := by
  obtain ⟨optional, number, unit⟩ := h
  exact List.append_ne_nil_of_left_ne_nil
    (List.append_ne_nil_of_right_ne_nil _ number.ne_nil) _

theorem isNumeric_of_number {negative : Bool} {sign numeral : List Char}
    (optional : Sign negative sign) (number : Numeral numeral) :
    ∀ c ∈ sign ++ numeral, Quantity.isNumeric c = true := by
  refine List.forall_mem_append.mpr ⟨?_, fun c hc => ?_⟩
  · cases optional with
    | absent => exact fun c hc => absurd hc List.not_mem_nil
    | plus | minus => exact List.forall_mem_singleton.mpr rfl
  · rcases number.chars c hc with digit | rfl
    · simp [Quantity.isNumeric, digit]
    · rfl

theorem digits_takeWhile (cs : List Char) : Digits (cs.takeWhile Char.isDigit) :=
  fun _ hc => List.mem_takeWhile_imp hc

theorem sign_of_signOf {cs digits : List Char} {negative : Bool}
    (h : Quantity.signOf cs = (negative, digits)) :
    ∃ sign, Sign negative sign ∧ cs = sign ++ digits := by
  unfold Quantity.signOf at h
  split at h <;> cases h
  · exact ⟨_, .minus, rfl⟩
  · exact ⟨_, .plus, rfl⟩
  · exact ⟨_, .absent, rfl⟩

theorem signOf_number {negative : Bool} {sign numeral : List Char} (optional : Sign negative sign)
    (number : Numeral numeral) : Quantity.signOf (sign ++ numeral) = (negative, numeral) := by
  cases optional with
  | plus | minus => rfl
  | absent =>
    rw [List.nil_append]
    unfold Quantity.signOf
    split
    · rcases number.chars '-' List.mem_cons_self with h | h <;> exact absurd h (by decide)
    · rcases number.chars '+' List.mem_cons_self with h | h <;> exact absurd h (by decide)
    · rfl

/-- What is read of a number is in its form. -/
theorem number_of_decimal {cs : List Char} {d : Quantity.Decimal}
    (h : Quantity.decimal cs = .ok d) :
    ∃ sign numeral, Sign d.negative sign ∧ Numeral numeral ∧ cs = sign ++ numeral := by
  unfold Quantity.decimal at h
  rcases hsign : Quantity.signOf cs with ⟨negative, digits⟩
  obtain ⟨sign, optional, hcs⟩ := sign_of_signOf hsign
  rw [hsign] at h
  dsimp only at h
  split at h
  next frac hfrac =>
    split at h
    · cases h
    · split at h
      · cases h
      next filled =>
        cases h
        refine ⟨sign, digits, optional, ?_, hcs⟩
        -- What follows the first digits is nothing, or a point and more digits.
        have decimal := digits_takeWhile digits
        rw [← List.takeWhile_append_dropWhile (p := Char.isDigit) (l := digits)]
        generalize digits.takeWhile Char.isDigit = before at decimal filled
        unfold Quantity.fraction? at hfrac
        split at hfrac
        next hrest =>
          cases hfrac
          rw [hrest, List.append_nil]
          exact .whole decimal (by simpa using filled)
        next after hrest =>
          split at hfrac
          next fraction =>
            cases hfrac
            rw [hrest]
            refine .pointed decimal (List.all_eq_true.mp fraction) ?_
            simpa using filled
          next => cases hfrac
        next => cases hfrac
  next => cases h

theorem digits_after {cs : List Char} (h : Digits cs) (rest : List Char) :
    (cs ++ rest).takeWhile Char.isDigit = cs ++ rest.takeWhile Char.isDigit ∧
      (cs ++ rest).dropWhile Char.isDigit = rest.dropWhile Char.isDigit :=
  ⟨List.takeWhile_append_of_pos h, List.dropWhile_append_of_pos h⟩

/-- A number in its form is read. -/
theorem decimal_of_number {negative : Bool} {sign numeral : List Char}
    (optional : Sign negative sign) (number : Numeral numeral) :
    ∃ d, Quantity.decimal (sign ++ numeral) = .ok d ∧ d.negative = negative := by
  have hne : (sign ++ numeral).isEmpty = false :=
    List.isEmpty_eq_false_iff.mpr (List.append_ne_nil_of_right_ne_nil _ number.ne_nil)
  obtain ⟨after, hafter, filled⟩ : ∃ after,
      Quantity.fraction? (numeral.dropWhile Char.isDigit) = some after ∧
        ((numeral.takeWhile Char.isDigit).isEmpty && after.isEmpty) = false := by
    cases number with
    | whole decimal filled =>
      obtain ⟨htake, hdrop⟩ := digits_after decimal []
      rw [List.append_nil] at htake hdrop
      refine ⟨[], by rw [hdrop]; rfl, ?_⟩
      rw [htake]
      simp [filled]
    | @pointed before after decimal fraction filled =>
      obtain ⟨htake, hdrop⟩ := digits_after decimal ('.' :: after)
      refine ⟨after, ?_, ?_⟩
      · rw [hdrop]
        exact if_pos (List.all_eq_true.mpr fraction)
      · rw [htake]
        have hstop : ('.' :: after).takeWhile Char.isDigit = [] := rfl
        rw [hstop, List.append_nil]
        simpa [imp_iff_not_or] using filled
  unfold Quantity.decimal
  rw [signOf_number optional number]
  dsimp only
  rw [hafter]
  dsimp only
  rw [hne, filled]
  exact ⟨_, rfl, rfl⟩

/-! ### Suffixes -/

/-- No suffix begins with a character of numbers. -/
theorem Suffix.start {suffix : List Char} (unit : Suffix suffix) :
    suffix.takeWhile Quantity.isNumeric = [] ∧ suffix.dropWhile Quantity.isNumeric = suffix := by
  cases unit with
  | name listed =>
    have names : ∀ name ∈ suffixNames, name.toList.takeWhile Quantity.isNumeric = [] ∧
        name.toList.dropWhile Quantity.isNumeric = name.toList := by
      decide
    have h := names _ listed
    rwa [String.toList_ofList] at h
  | exponent marked =>
    rcases marked with rfl | rfl <;> exact ⟨rfl, rfl⟩

theorem suffixValue?_isSome (name : String) :
    (Quantity.suffixValue? name).isSome = true ↔ name ∈ suffixNames := by
  unfold Quantity.suffixValue?
  split <;> simp_all [suffixNames]

theorem readDigits_some {cs : List Char} {n : Nat} :
    Text.readDigits cs = some n ↔ Digits cs ∧ cs ≠ [] ∧ n = Text.digitsValue cs := by
  unfold Text.readDigits
  constructor
  · intro h
    split at h
    next => cases h
    next filled =>
      split at h
      next decimal =>
        cases h
        exact ⟨List.all_eq_true.mp decimal, fun hnil => filled (List.isEmpty_iff.mpr hnil), rfl⟩
      next => cases h
  · rintro ⟨decimal, filled, rfl⟩
    rw [if_neg (fun h => filled (List.isEmpty_iff.mp h)), if_pos (List.all_eq_true.mpr decimal)]

/-- Decimal digits after an optional sign are read as the number that they write. -/
theorem readSigned_some {cs : List Char} {n : Int} :
    Text.readSigned cs = some n ↔ ∃ negative sign digits, Sign negative sign ∧ Digits digits ∧
      digits ≠ [] ∧ cs = sign ++ digits ∧ signed negative (Text.digitsValue digits) = n := by
  unfold Text.readSigned
  constructor
  · intro h
    split at h
    all_goals
      obtain ⟨m, hm, rfl⟩ := Option.map_eq_some_iff.mp h
      obtain ⟨decimal, filled, rfl⟩ := readDigits_some.mp hm
    · exact ⟨_, _, _, .plus, decimal, filled, rfl, rfl⟩
    · exact ⟨_, _, _, .minus, decimal, filled, rfl, rfl⟩
    · exact ⟨_, _, _, .absent, decimal, filled, rfl, rfl⟩
  · rintro ⟨negative, sign, digits, optional, decimal, filled, rfl, rfl⟩
    have hread := readDigits_some.mpr ⟨decimal, filled, rfl⟩
    cases optional with
    | plus | minus => exact Option.map_eq_some_iff.mpr ⟨_, hread, rfl⟩
    | absent =>
      rw [List.nil_append]
      split
      · exact absurd (decimal '+' List.mem_cons_self) (by decide)
      · exact absurd (decimal '-' List.mem_cons_self) (by decide)
      · exact Option.map_eq_some_iff.mpr ⟨_, hread, rfl⟩

theorem exponent_some {suffix : List Char} {n : Int} :
    Quantity.exponent? suffix = some n ↔ ∃ mark cs, (mark = 'e' ∨ mark = 'E') ∧
      suffix = mark :: cs ∧ Text.readSigned cs = some n ∧ InRange n := by
  have inRange : ∀ cs, (Text.readSigned cs).filter (fun n : Int =>
      decide (-((Nat.pow 2 31 : Nat) : Int) ≤ n) && decide (n < (Nat.pow 2 31 : Nat))) = some n ↔
      Text.readSigned cs = some n ∧ InRange n := by
    intro cs
    have least : Int32.minValue.toInt = -((Nat.pow 2 31 : Nat) : Int) := by decide
    have greatest : Int32.maxValue.toInt = (Nat.pow 2 31 : Nat) - 1 := by decide
    rw [Option.filter_eq_some_iff, Bool.and_eq_true, decide_eq_true_eq, decide_eq_true_eq,
      InRange, least, greatest, Int.le_sub_one_iff]
  constructor
  · intro h
    unfold Quantity.exponent? at h
    split at h
    · exact ⟨_, _, .inl rfl, rfl, (inRange _).mp h⟩
    · exact ⟨_, _, .inr rfl, rfl, (inRange _).mp h⟩
    · cases h
  · rintro ⟨mark, cs, rfl | rfl, rfl, h⟩ <;> exact (inRange cs).mpr h

/-- A suffix stands for a factor exactly if it is in the form of suffixes. -/
theorem multiplier_some (suffix : List Char) :
    (∃ factor, Quantity.multiplier? suffix = some factor) ↔ Suffix suffix := by
  unfold Quantity.multiplier?
  constructor
  · rintro ⟨factor, h⟩
    split at h
    next value hvalue =>
      exact .name ((suffixValue?_isSome _).mp (Option.isSome_iff_exists.mpr ⟨value, hvalue⟩))
    next =>
      obtain ⟨n, hn, -⟩ := Option.map_eq_some_iff.mp h
      obtain ⟨mark, cs, marked, rfl, hread, range⟩ := exponent_some.mp hn
      obtain ⟨negative, sign, digits, optional, decimal, filled, rfl, rfl⟩ :=
        readSigned_some.mp hread
      exact .exponent marked optional decimal filled range
  · intro unit
    split
    next value _ => exact ⟨value, rfl⟩
    next unnamed =>
      cases unit with
      | name listed =>
        have named := (suffixValue?_isSome _).mpr listed
        rw [unnamed] at named
        cases named
      | exponent marked optional decimal filled range =>
        have hread := readSigned_some.mpr ⟨_, _, _, optional, decimal, filled, rfl, rfl⟩
        rw [exponent_some.mpr ⟨_, _, marked, rfl, hread, range⟩]
        exact ⟨_, rfl⟩

/-! ### Magnitudes -/

theorem roundHalfEven_le (num den : Nat) :
    2 * (den * Binary64.roundHalfEven num den) ≤ 2 * num + den := by
  have split := Nat.div_add_mod num den
  have parity : den * (num / den + num / den % 2) ≤ den * (num / den) + den := by
    rw [Nat.mul_add]
    have odd : den * (num / den % 2) ≤ den * 1 := Nat.mul_le_mul_left den (by omega)
    omega
  unfold Binary64.roundHalfEven
  dsimp only
  split
  · omega
  split
  · rw [Nat.mul_add]
    omega
  · omega

theorem spacing_mono {a b : Nat} (h : a ≤ b) : Binary64.spacing a ≤ Binary64.spacing b := by
  have shorter : a.log2 ≤ b.log2 := by
    rw [Nat.log2_eq_log_two, Nat.log2_eq_log_two]
    exact Nat.log_mono_right h
  exact Nat.pow_le_pow_right Nat.two_pos (Nat.sub_le_sub_right shorter 52)

/-- A quotient is at least the middle of the greatest finite number and the limit. -/
def Huge (num den : Nat) : Prop :=
  2 * (den * Binary64.limit) ≤ 2 * num + den * Binary64.spacing (Binary64.limit - 1)

theorem huge_of_not_finite {num den : Nat}
    (h : (Binary64.ofStepRatio num den).isFinite = false) : Huge num den := by
  unfold Binary64.ofStepRatio at h
  dsimp only at h
  split at h
  next => cases h
  next beyond =>
    unfold Huge
    by_cases great : Binary64.limit ≤ num / den
    · have reached := Nat.mul_le_mul_left den great
      have below := Nat.mul_div_le num den
      omega
    · -- Below the limit no spacing is wider than that of the greatest finite number.
      have fine := Nat.mul_le_mul_left den (spacing_mono (Nat.le_sub_one_of_lt (not_le.mp great)))
      have nearest := roundHalfEven_le num (den * Binary64.spacing (num / den))
      have reached := Nat.mul_le_mul_left den (not_lt.mp beyond)
      rw [Nat.mul_assoc, Nat.mul_comm (Binary64.spacing _)] at nearest
      omega

/-- The number is infinite, not a number or at least `2 ^ 64`. -/
def TooLarge (value : Binary64) : Prop :=
  ∀ steps, value = .finite steps → UInt64.size * Binary64.one ≤ steps

theorem toUnits_error {value : Binary64} {fault : QuantityFault}
    (h : Quantity.toUnits value = .error fault) : fault = .outOfRange ∧ TooLarge value := by
  unfold Quantity.toUnits at h
  split at h
  next steps =>
    split at h
    next large =>
      cases h
      refine ⟨rfl, fun n hn => ?_⟩
      cases hn
      exact large
    next =>
      dsimp only at h
      split at h <;> cases h
  next notFinite =>
    cases h
    exact ⟨rfl, fun n hn => absurd hn (notFinite n)⟩

/-! ### Texts -/

theorem trimChars_blanks {before after : List Char} (hbefore : ∀ c ∈ before, Text.isBlank c = true)
    (cs : List Char) (hafter : ∀ c ∈ after, Text.isBlank c = true) :
    Text.trimChars (before ++ cs ++ after) = Text.trimChars cs := by
  unfold Text.trimChars Text.dropEndWhile
  rw [List.append_assoc, List.dropWhile_append_of_pos hbefore, List.dropWhile_append]
  split
  next blank =>
    rw [List.dropWhile_eq_nil_iff.mpr hafter, List.isEmpty_iff.mp blank]
  next =>
    rw [List.reverse_append,
      List.dropWhile_append_of_pos fun c hc => hafter c (List.mem_reverse.mp hc)]

theorem written_of_scaledChars {cs : List Char} {value : Binary64}
    (h : Quantity.scaledChars cs = .ok value) : ∃ negative, Written negative cs := by
  unfold Quantity.scaledChars at h
  obtain ⟨d, hd, h⟩ := outcome_bind_ok.mp h
  obtain ⟨sign, numeral, optional, number, hnumber⟩ := number_of_decimal (mapError_ok.mp hd)
  have unit : Suffix (cs.dropWhile Quantity.isNumeric) := by
    refine (multiplier_some _).mp ?_
    dsimp only at h
    split at h
    · cases h
    split at h
    · cases h
    split at h
    next factor hfactor => exact ⟨factor, hfactor⟩
    next => cases h
  refine ⟨d.negative, ?_⟩
  rw [← List.takeWhile_append_dropWhile (p := Quantity.isNumeric) (l := cs), hnumber]
  exact .of optional number unit

/-- A text whose number is too large to be finite. -/
def HugeNumber (cs : List Char) : Prop :=
  ∃ d, Quantity.decimal (cs.takeWhile Quantity.isNumeric) = .ok d ∧
    Huge (d.num * Binary64.one) d.den

theorem scaledChars_of_written {cs : List Char} (written : Written false cs) :
    (∃ value, Quantity.scaledChars cs = .ok value) ∨
      Quantity.scaledChars cs = .error .notFinite ∧ HugeNumber cs := by
  obtain ⟨optional, number, unit⟩ := written
  next sign numeral suffix =>
    obtain ⟨hnone, hall⟩ := unit.start
    have numeric := isNumeric_of_number optional number
    have htake : (sign ++ numeral ++ suffix).takeWhile Quantity.isNumeric = sign ++ numeral := by
      rw [List.takeWhile_append_of_pos numeric, hnone, List.append_nil]
    have hdrop : (sign ++ numeral ++ suffix).dropWhile Quantity.isNumeric = suffix := by
      rw [List.dropWhile_append_of_pos numeric, hall]
    obtain ⟨d, hd, unsigned⟩ := decimal_of_number optional number
    obtain ⟨factor, hfactor⟩ := (multiplier_some _).mpr unit
    have hparsed := mapError_ok (f := QuantityFault.notNumeric).mpr hd
    rw [← htake] at hparsed
    by_cases finite : (Binary64.ofRatio d.num d.den).isFinite = true
    · refine .inl ⟨Binary64.ofRatio d.num d.den * factor, ?_⟩
      refine outcome_bind_ok.mpr ⟨d, hparsed, ?_⟩
      dsimp only
      rw [hdrop, hfactor, finite, unsigned]
      rfl
    · have hfinite := eq_false_of_ne_true finite
      refine .inr ⟨?_, d, ?_, huge_of_not_finite hfinite⟩
      · refine outcome_bind_error.mpr (.inr ⟨d, hparsed, ?_⟩)
        dsimp only
        rw [hfinite]
        rfl
      · rw [htake, hd]

theorem blame_error {α : Type} {s : String} {r : Except QuantityFault α} {e : QuantityError}
    (h : Quantity.blame s r = .error e) : e.input = s ∧ r = .error e.fault := by
  cases r with
  | ok value => cases h
  | error fault =>
    cases h
    exact ⟨rfl, rfl⟩

/-- Why a text in the form of quantities is refused: its number is too large, or its value does not
fit what is counted. -/
inductive Excess (unfit : Binary64 → QuantityFault → Prop) (cs : List Char) :
    QuantityFault → Prop where
  | number (huge : HugeNumber cs) : Excess unfit cs .notFinite
  | value {value : Binary64} {fault : QuantityFault}
      (scaled : Quantity.scaledChars cs = .ok value) (reason : unfit value fault) :
      Excess unfit cs fault

structure FollowsGrammar (read : String → Except QuantityError UInt64)
    (unfit : Binary64 → QuantityFault → Prop) : Prop where
  accepted : ∀ {s n}, read s = .ok n → ∃ negative, Written negative (Text.trimChars s.toList)
  refused : ∀ {s e}, Written false (Text.trimChars s.toList) → read s = .error e →
    e.input = s ∧ Excess unfit (Text.trimChars s.toList) e.fault
  blanks : ∀ {before after : String}, before.toList.all Text.isBlank = true →
    after.toList.all Text.isBlank = true →
      ∀ s n, read (before ++ s ++ after) = .ok n ↔ read s = .ok n

theorem scaled_filled {cs : List Char} (filled : Text.trimChars cs ≠ []) :
    Quantity.scaled cs = Quantity.scaledChars (Text.trimChars cs) := by
  unfold Quantity.scaled
  dsimp only
  rw [List.isEmpty_eq_false_iff.mpr filled]
  rfl

theorem scaled_ok {cs : List Char} {value : Binary64} (h : Quantity.scaled cs = .ok value) :
    Quantity.scaledChars (Text.trimChars cs) = .ok value := by
  by_cases filled : Text.trimChars cs = []
  · unfold Quantity.scaled at h
    rw [filled] at h
    cases h
  · rwa [scaled_filled filled] at h

/-- A reader that scales first follows the grammar with the faults of what it does next. -/
theorem followsGrammar_of {read : String → Except QuantityError UInt64}
    {finish : Binary64 → Except QuantityFault UInt64} {unfit : Binary64 → QuantityFault → Prop}
    (hread : ∀ s, read s = Quantity.blame s (Quantity.scaled s.toList >>= finish))
    (hfinish : ∀ {value fault}, finish value = .error fault → unfit value fault) :
    FollowsGrammar read unfit where
  accepted := by
    intro s n h
    rw [hread] at h
    obtain ⟨value, hvalue, -⟩ := outcome_bind_ok.mp (mapError_ok.mp h)
    exact written_of_scaledChars (scaled_ok hvalue)
  refused := by
    intro s e written h
    rw [hread] at h
    obtain ⟨hinput, h⟩ := blame_error h
    refine ⟨hinput, ?_⟩
    rw [scaled_filled written.ne_nil] at h
    rcases outcome_bind_error.mp h with h | ⟨value, hvalue, h⟩
    · rcases scaledChars_of_written written with ⟨value, hvalue⟩ | ⟨hfault, huge⟩
      · rw [hvalue] at h
        cases h
      · rw [hfault] at h
        exact Except.error.inj h ▸ .number huge
    · exact .value hvalue (hfinish h)
  blanks := by
    intro before after hbefore hafter s n
    have trimmed : Quantity.scaled (before ++ s ++ after).toList = Quantity.scaled s.toList := by
      unfold Quantity.scaled
      rw [String.toList_append, String.toList_append,
        trimChars_blanks (List.all_eq_true.mp hbefore) _ (List.all_eq_true.mp hafter)]
    rw [hread, hread, trimmed]
    exact mapError_ok.trans mapError_ok.symm

/-- CPU, memory and countable resources are read from the same grammar. Of what is written in it
without a minus sign, they refuse only what is too large, and counts what is no whole number. -/
theorem quantities_follow_grammar :
    FollowsGrammar Quantity.cpuMillis
        (fun value fault => fault = .outOfRange ∧ TooLarge (value * .ofNat 1000)) ∧
      FollowsGrammar Quantity.memoryBytes
        (fun value fault => fault = .outOfRange ∧ TooLarge value) ∧
      FollowsGrammar Quantity.count
        (fun value fault => fault = .outOfRange ∧ TooLarge value ∨
          fault = .notWhole ∧ value.isWhole = false) := by
  refine ⟨followsGrammar_of (fun _ => rfl) toUnits_error,
    followsGrammar_of (fun _ => rfl) toUnits_error, followsGrammar_of (fun _ => rfl) ?_⟩
  intro value fault h
  split at h
  next part =>
    cases h
    exact .inr ⟨rfl, by simpa using part⟩
  next => exact .inl (toUnits_error h)

example : Quantity.cpuMillis "\t+.5 " = .ok 500 := by decide +kernel

end ClusterProvisioning.Proofs
