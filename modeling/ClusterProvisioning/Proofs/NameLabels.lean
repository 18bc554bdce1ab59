import ClusterProvisioning.Proofs.SessionWiring
import Mathlib.Data.List.Chain
import Mathlib.Data.List.DropRight

/-!
# Labels as names

The objects of a plan are named after labels, and labels are derived from whatever a request says.
A text has a label exactly when it has a character that labels take, and then the label is in the
form that the cluster asks of names, short enough that a suffix still fits, and its own label
(`labelForm_of_label`, `label_of_form`).
-/

namespace ClusterProvisioning.Proofs
open Plan

/-- A character of names: a lower-case letter, a digit or a hyphen. -/
def NameChar (c : Char) : Prop := Text.isLabelChar c = true ∨ c = '-'

/-- No two hyphens stand next to each other. -/
def Spaced (cs : List Char) : Prop := cs.IsChain fun c d => c ≠ '-' ∨ d ≠ '-'

/-- The form of labels. -/
structure LabelForm (cs : List Char) : Prop where
  length : 1 ≤ cs.length ∧ cs.length ≤ 52
  chars : ∀ c ∈ cs, NameChar c
  first : cs.head? ≠ some '-'
  last : cs.getLast? ≠ some '-'
  spaced : Spaced cs

/-- What a label is built up from, the last character first. -/
structure Pushed (reversed : List Char) : Prop where
  chars : ∀ c ∈ reversed, NameChar c
  first : reversed.getLast? ≠ some '-'
  spaced : Spaced reversed

/-! ### Characters -/

theorem isLabelChar_hyphen : Text.isLabelChar '-' = false := by decide

theorem nameChar_code {c : Char} (h : NameChar c) :
    97 ≤ c.toNat ∧ c.toNat ≤ 122 ∨ 48 ≤ c.toNat ∧ c.toNat ≤ 57 ∨ c.toNat = 45 := by
  rcases h with taken | rfl
  · simp only [Text.isLabelChar, Char.isDigit, Bool.or_eq_true, Bool.and_eq_true,
      decide_eq_true_eq, Char.le_def, UInt32.le_iff_toNat_le, ge_iff_le] at taken
    rcases taken with taken | taken
    · exact .inl taken
    · exact .inr (.inl taken)
  · exact .inr (.inr rfl)

/-- A character of names is its own lower-case form. -/
theorem lowerChar_of_nameChar {c : Char} (h : NameChar c) : Text.lowerChar c = [c] := by
  have hcode := nameChar_code h
  have hupper : ¬('A' ≤ c ∧ c ≤ 'Z') := by
    simp only [Char.le_def, UInt32.le_iff_toNat_le]
    change ¬(65 ≤ c.toNat ∧ c.toNat ≤ 90)
    omega
  rw [Text.lowerChar, if_neg hupper, if_neg (by omega), if_neg (by omega)]

theorem isBlank_of_nameChar {c : Char} (h : NameChar c) : Text.isBlank c = false := by
  have hcode := nameChar_code h
  simp only [Text.isBlank, Bool.or_eq_false_iff, Bool.and_eq_false_iff, decide_eq_false_iff_not,
    beq_eq_false_iff_ne]
  omega

theorem trimChars_of_nameChars {cs : List Char} (h : ∀ c ∈ cs, NameChar c) :
    Text.trimChars cs = cs := by
  have hstart : cs.dropWhile Text.isBlank = cs := by
    cases cs with
    | nil => rfl
    | cons c rest =>
      have hc := isBlank_of_nameChar (h c List.mem_cons_self)
      exact List.dropWhile_cons_of_neg (by rw [hc]; exact Bool.false_ne_true)
  change List.rdropWhile Text.isBlank (cs.dropWhile Text.isBlank) = cs
  rw [hstart]
  refine List.rdropWhile_eq_self_iff.mpr fun hne blank => ?_
  exact Bool.false_ne_true ((isBlank_of_nameChar (h _ (List.getLast_mem hne))).symm.trans blank)

theorem flatMap_lowerChar {cs : List Char} (h : ∀ c ∈ cs, NameChar c) :
    cs.flatMap Text.lowerChar = cs := by
  induction cs with
  | nil => rfl
  | cons c cs ih =>
    obtain ⟨hc, hcs⟩ := List.forall_mem_cons.mp h
    rw [List.flatMap_cons, lowerChar_of_nameChar hc, ih hcs]
    rfl

/-! ### Building up -/

theorem pushLabel_pushed {reversed : List Char} (h : Pushed reversed) (c : Char) :
    Pushed (Text.pushLabel reversed c) := by
  unfold Text.pushLabel
  split
  next taken =>
    have hne : c ≠ '-' := by
      rintro rfl
      exact Bool.false_ne_true (isLabelChar_hyphen.symm.trans taken)
    refine ⟨List.forall_mem_cons.mpr ⟨.inl taken, h.chars⟩, ?_, ?_⟩
    · rw [List.getLast?_cons]
      cases hlast : reversed.getLast? with
      | none => exact fun heq => hne (Option.some.inj heq)
      | some last => exact fun heq => h.first (hlast.trans heq)
    · exact List.isChain_cons.mpr ⟨fun _ _ => .inl hne, h.spaced⟩
  next =>
    split
    · exact h
    · exact h
    next last rest hne =>
      refine ⟨List.forall_mem_cons.mpr ⟨.inr rfl, h.chars⟩, ?_, ?_⟩
      · rw [List.getLast?_cons_cons]
        exact h.first
      · exact List.isChain_cons_cons.mpr ⟨.inr hne, h.spaced⟩

theorem foldl_pushLabel_pushed {reversed : List Char} (h : Pushed reversed) (cs : List Char) :
    Pushed (cs.foldl Text.pushLabel reversed) := by
  induction cs generalizing reversed with
  | nil => exact h
  | cons c cs ih => exact ih (pushLabel_pushed h c)

theorem pushLabel_nil {reversed : List Char} {c : Char} :
    Text.pushLabel reversed c = [] ↔ reversed = [] ∧ Text.isLabelChar c = false := by
  unfold Text.pushLabel
  split
  next taken => simp [taken]
  next refused =>
    have refused : Text.isLabelChar c = false := Bool.eq_false_iff.mpr refused
    split <;> simp [refused]

/-- Nothing is built up from a text exactly when labels take none of its characters. -/
theorem foldl_pushLabel_nil {reversed cs : List Char} :
    cs.foldl Text.pushLabel reversed = [] ↔
      reversed = [] ∧ ∀ c ∈ cs, Text.isLabelChar c = false := by
  induction cs generalizing reversed with
  | nil => simp
  | cons c cs ih => rw [List.foldl_cons, ih, pushLabel_nil, List.forall_mem_cons, and_assoc]

/-- Pushing a character that may follow adds it. -/
theorem pushLabel_of_pushed {reversed : List Char} {c : Char} (h : Pushed (c :: reversed)) :
    Text.pushLabel reversed c = c :: reversed := by
  rcases h.chars c List.mem_cons_self with taken | rfl
  · unfold Text.pushLabel
    rw [if_pos taken]
  · unfold Text.pushLabel
    rw [if_neg (by rw [isLabelChar_hyphen]; exact Bool.false_ne_true)]
    split
    · exact absurd rfl h.first
    · rcases (List.isChain_cons_cons.mp h.spaced).1 with hne | hne <;> exact absurd rfl hne
    · rfl

theorem Pushed.tail {reversed : List Char} {c : Char} (h : Pushed (c :: reversed)) :
    Pushed reversed := by
  refine ⟨(List.forall_mem_cons.mp h.chars).2, fun hlast => h.first ?_, h.spaced.tail⟩
  rw [List.getLast?_cons, hlast]
  rfl

/-- Building up what was built up gives it back. -/
theorem foldl_pushLabel_reverse {reversed : List Char} (h : Pushed reversed) :
    reversed.reverse.foldl Text.pushLabel [] = reversed := by
  induction reversed with
  | nil => rfl
  | cons c reversed ih =>
    rw [List.reverse_cons, List.foldl_append, ih h.tail]
    exact pushLabel_of_pushed h

/-- Characters that labels do not take all push the same. -/
theorem pushLabel_refused (reversed : List Char) {c : Char} (refused : Text.isLabelChar c = false) :
    Text.pushLabel reversed c = Text.pushLabel reversed '-' := by
  simp only [Text.pushLabel, refused, isLabelChar_hyphen, Bool.false_eq_true, if_false]

/-- A run of characters that labels do not take pushes one hyphen. -/
theorem foldl_pushLabel_refused (reversed : List Char) {cs : List Char} (run : cs ≠ [])
    (refused : ∀ c ∈ cs, Text.isLabelChar c = false) :
    cs.foldl Text.pushLabel reversed = Text.pushLabel reversed '-' := by
  have again : ∀ r, Text.pushLabel (Text.pushLabel r '-') '-' = Text.pushLabel r '-' := by
    intro r
    cases r with
    | nil => rfl
    | cons last rest => by_cases h : last = '-' <;> simp [Text.pushLabel, isLabelChar_hyphen, h]
  induction cs generalizing reversed with
  | nil => exact absurd rfl run
  | cons c cs ih =>
    obtain ⟨hc, hcs⟩ := List.forall_mem_cons.mp refused
    rw [List.foldl_cons, pushLabel_refused reversed hc]
    cases cs with
    | nil => rfl
    | cons d cs => rw [ih _ (List.cons_ne_nil d cs) hcs, again]

/-! ### Labels -/

/-- What is built up from a text, in the order of the text. -/
def builtUp (cs : List Char) : List Char := ((Text.lowered cs).foldl Text.pushLabel []).reverse

theorem builtUp_pushed (cs : List Char) : Pushed (builtUp cs).reverse := by
  rw [builtUp, List.reverse_reverse]
  exact foldl_pushLabel_pushed ⟨by simp, by simp, List.isChain_nil⟩ _

theorem labelChars_initial (cs : List Char) : Text.labelChars cs <+: builtUp cs :=
  (List.rdropWhile_prefix _ _).trans (List.take_prefix _ _)

theorem builtUp_head (cs : List Char) : (builtUp cs).head? ≠ some '-' := by
  have h := (builtUp_pushed cs).first
  rwa [List.getLast?_reverse] at h

theorem labelChars_nil (cs : List Char) :
    Text.labelChars cs = [] ↔ ∀ c ∈ Text.lowered cs, Text.isLabelChar c = false := by
  have hbuilt : Text.labelChars cs = [] ↔ builtUp cs = [] := by
    constructor
    · intro h
      have hhyphens : ∀ c ∈ (builtUp cs).take Text.labelLimit, (c == '-') = true :=
        List.rdropWhile_eq_nil_iff.mp h
      cases hcs : builtUp cs with
      | nil => rfl
      | cons c rest =>
        rw [hcs] at hhyphens
        have hc := beq_iff_eq.mp (hhyphens c List.mem_cons_self)
        exact absurd (by rw [hcs, hc]; rfl) (builtUp_head cs)
    · intro h
      exact List.prefix_nil.mp (h ▸ labelChars_initial cs)
  rw [hbuilt, builtUp, List.reverse_eq_nil_iff, foldl_pushLabel_nil, and_iff_right rfl]

theorem labelForm_labelChars {cs : List Char} (h : Text.labelChars cs ≠ []) :
    LabelForm (Text.labelChars cs) where
  length := by
    refine ⟨List.length_pos_iff.mpr h, ?_⟩
    have hcut := (List.rdropWhile_prefix (· == '-') ((builtUp cs).take Text.labelLimit)).length_le
    exact hcut.trans (List.length_take_le _ _)
  chars := fun c hc =>
    (builtUp_pushed cs).chars c (List.mem_reverse.mpr ((labelChars_initial cs).subset hc))
  first := by
    obtain ⟨rest, hrest⟩ := labelChars_initial cs
    have hfirst := builtUp_head cs
    rwa [← hrest, List.head?_append_of_ne_nil _ h] at hfirst
  last := by
    have hlast := List.rdropWhile_last_not (· == '-') ((builtUp cs).take Text.labelLimit) h
    intro heq
    rw [List.getLast?_eq_some_getLast h] at heq
    exact hlast (beq_iff_eq.mpr (Option.some.inj heq))
  spaced := by
    obtain ⟨rest, hrest⟩ := labelChars_initial cs
    have hspaced := List.isChain_reverse.mp (builtUp_pushed cs).spaced
    rw [← hrest] at hspaced
    exact hspaced.left_of_append.imp fun _ _ => Or.symm

theorem labelChars_of_form {cs : List Char} (form : LabelForm cs) : Text.labelChars cs = cs := by
  have hlowered : Text.lowered cs = cs := by
    rw [Text.lowered, trimChars_of_nameChars form.chars, flatMap_lowerChar form.chars]
  have hpushed : Pushed cs.reverse := by
    refine ⟨fun c hc => form.chars c (List.mem_reverse.mp hc), ?_, ?_⟩
    · rw [List.getLast?_reverse]
      exact form.first
    · exact List.isChain_reverse.mpr (form.spaced.imp fun _ _ => Or.symm)
  have hbuilt : builtUp cs = cs := by
    have h := foldl_pushLabel_reverse hpushed
    rw [List.reverse_reverse] at h
    rw [builtUp, hlowered, h, List.reverse_reverse]
  have hcut : cs.take Text.labelLimit = cs := List.take_of_length_le form.length.2
  change List.rdropWhile (· == '-') ((builtUp cs).take Text.labelLimit) = cs
  rw [hbuilt, hcut]
  refine List.rdropWhile_eq_self_iff.mpr fun hne hyphen => form.last ?_
  rw [List.getLast?_eq_some_getLast hne, beq_iff_eq.mp hyphen]

/-- A way to write characters in lower case that differs from the one used for labels only where
neither has a character that labels take. -/
def LowerCase (lower : Char → List Char) : Prop :=
  ∀ c, lower c = Text.lowerChar c ∨
    lower c ≠ [] ∧ ∀ d ∈ lower c ++ Text.lowerChar c, Text.isLabelChar d = false

/-- Labels do not depend on how other characters are written in lower case. -/
theorem builtUp_of_lowerCase {lower : Char → List Char} (h : LowerCase lower) (cs : List Char) :
    (((Text.trimChars cs).flatMap lower).foldl Text.pushLabel []).reverse = builtUp cs := by
  have step : ∀ (c : Char) (reversed : List Char),
      (lower c).foldl Text.pushLabel reversed =
        (Text.lowerChar c).foldl Text.pushLabel reversed := by
    intro c reversed
    rcases h c with heq | ⟨hrun, hrefused⟩
    · rw [heq]
    · have hother : Text.lowerChar c ≠ [] := by
        unfold Text.lowerChar
        split_ifs <;> exact List.cons_ne_nil _ _
      obtain ⟨hlower, hlabels⟩ := List.forall_mem_append.mp hrefused
      rw [foldl_pushLabel_refused _ hrun hlower, foldl_pushLabel_refused _ hother hlabels]
  unfold builtUp Text.lowered
  simp only [List.foldl_flatMap, step]

theorem refused_of_lowerCase {lower : Char → List Char} (h : LowerCase lower) (cs : List Char) :
    (∀ c ∈ (Text.trimChars cs).flatMap lower, Text.isLabelChar c = false) ↔
      ∀ c ∈ Text.lowered cs, Text.isLabelChar c = false := by
  have hbuilt := builtUp_of_lowerCase h cs
  have hnil := congrArg (· = []) hbuilt
  simp only [builtUp, List.reverse_eq_nil_iff, foldl_pushLabel_nil, true_and, eq_iff_iff] at hnil
  exact hnil

theorem label?_some {raw label : String} :
    Text.label? raw = some label ↔
      Text.labelChars raw.toList = label.toList ∧ label.toList ≠ [] := by
  unfold Text.label?
  split
  next hnil =>
    rw [hnil]
    exact ⟨fun h => (by cases h), fun h => absurd h.1.symm h.2⟩
  next cs hne =>
    rw [Option.some.injEq]
    constructor
    · rintro rfl
      rw [String.toList_ofList]
      exact ⟨rfl, hne⟩
    · rintro ⟨hlabel, -⟩
      rw [hlabel, String.ofList_toList]

theorem label?_none {raw : String} :
    Text.label? raw = none ↔ ∀ c ∈ Text.lowered raw.toList, Text.isLabelChar c = false := by
  rw [← labelChars_nil, Text.label?]
  split
  next hnil => exact ⟨fun _ => hnil, fun _ => rfl⟩
  next cs hne => exact ⟨fun h => (by cases h), fun h => absurd h hne⟩

theorem labelForm_of_label {raw label : String} (h : Text.label? raw = some label) :
    LabelForm label.toList := by
  obtain ⟨hchars, hne⟩ := label?_some.mp h
  rw [← hchars] at hne ⊢
  exact labelForm_labelChars hne

/-- A text in the form of labels is its own label. -/
theorem label_of_form {label : String} (form : LabelForm label.toList) :
    Text.label? label = some label :=
  label?_some.mpr ⟨labelChars_of_form form, List.length_pos_iff.mp form.length.1⟩

end ClusterProvisioning.Proofs
