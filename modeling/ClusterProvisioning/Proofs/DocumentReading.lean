import ClusterProvisioning.Document.Decode
import Mathlib.Data.List.Nodup
import Mathlib.Data.List.Perm.Basic
import Mathlib.Data.List.Perm.Subperm

/-!
# Reading back what was written

A document states a JSON value if it has the value's form, as JSON writes it or as YAML reads it:
words and numbers may be unquoted scalars, and the members of an object may stand in any order. A
reader gives back a written value if it does so from every document that states the value
(`ReadsAs`). The readers of fields do, and a reader of structures finds all fields that were written
(`fields_written`).
-/

namespace ClusterProvisioning.Proofs
open Document

variable {α β : Type}

/-- Whether a key is a text that was written as a text. -/
def isKey (name : String) : Document → Bool
  | .string s => s == name
  | _ => false

mutual

/-- Whether a document states a JSON value. -/
def states : Document → Json → Bool
  | .null, .null => true
  | .plain s, .null => s == "null"
  | .bool a, .bool b => a == b
  | .plain s, .bool b => s == toString b
  | .number m, .number n => decide (m = n)
  | .plain s, .number (.whole n) => s == toString n
  | .string s, .string t => s == t
  | .array ds, .array js => statesItems ds js
  | .sequence ds, .array js => statesItems ds js
  | .map entries, .object members =>
    entries.length == members.length && statesMembers entries members
  | _, _ => false

/-- Whether some documents state the items of an array. -/
def statesItems : List Document → List Json → Bool
  | [], [] => true
  | d :: ds, j :: js => states d j && statesItems ds js
  | _, _ => false

/-- Whether each member of an object is stated by one of some entries. -/
def statesMembers (entries : List (Document × Document)) : List (String × Json) → Bool
  | [] => true
  | (name, j) :: rest =>
    entries.any (fun entry => isKey name entry.1 && states entry.2 j) && statesMembers entries rest

end

/-- The reader gives a value back from every document that states its JSON form. -/
def ReadsAs (read : Document → Option α) (j : Json) (x : α) : Prop :=
  ∀ d, states d j = true → read d = some x

theorem states_null {d : Document} : states d .null = true ↔ d = .null ∨ d = .plain "null" := by
  cases d <;> simp [states]

theorem states_bool {d : Document} {b : Bool} :
    states d (.bool b) = true ↔ d = .bool b ∨ d = .plain (toString b) := by
  cases d <;> simp [states]

theorem states_ofNat {d : Document} {n : Nat} :
    states d (.ofNat n) = true ↔ d = .number (.whole n) ∨ d = .plain (toString n) := by
  cases d <;> simp [states, Json.ofNat]
  rfl

theorem states_string {d : Document} {s : String} :
    states d (.string s) = true ↔ d = .string s := by
  cases d <;> simp [states]

theorem states_array {d : Document} {js : List Json} :
    states d (.array js) = true ↔
      ∃ ds, (d = .array ds ∨ d = .sequence ds) ∧ statesItems ds js = true := by
  cases d <;> simp [states]

theorem states_object {d : Document} {members : List (String × Json)} :
    states d (.object members) = true ↔ ∃ entries, d = .map entries ∧
      entries.length = members.length ∧ statesMembers entries members = true := by
  cases d <;> simp [states]

theorem isKey_iff {name : String} {d : Document} : isKey name d = true ↔ d = .string name := by
  cases d <;> simp [isKey]

theorem statesItems_iff {ds : List Document} {js : List Json} :
    statesItems ds js = true ↔ List.Forall₂ (fun d j => states d j = true) ds js := by
  induction ds generalizing js with
  | nil => cases js <;> simp [statesItems]
  | cons d ds ih => cases js <;> simp [statesItems, ih]

theorem statesMembers_iff {entries : List (Document × Document)} {members : List (String × Json)} :
    statesMembers entries members = true ↔
      ∀ m ∈ members, ∃ d, (Document.string m.1, d) ∈ entries ∧ states d m.2 = true := by
  induction members with
  | nil => simp [statesMembers]
  | cons m members ih => simp [statesMembers, ih, isKey_iff]

theorem length_ofMembers (members : List (String × Json)) :
    (ofMembers members).length = members.length := by
  induction members with
  | nil => rfl
  | cons m members ih => exact congrArg (· + 1) ih

mutual

/-- A JSON value as a document states the value. -/
theorem states_ofJson : ∀ j : Json, states (.ofJson j) j = true
  | .null | .bool _ | .number _ | .string _ => by simp [ofJson, states]
  | .array items => statesItems_ofItems items
  | .object members => by
    rw [ofJson, states, length_ofMembers, statesMembers_ofMembers members _ fun _ h => h]
    simp

theorem statesItems_ofItems : ∀ js : List Json, statesItems (ofItems js) js = true
  | [] => rfl
  | j :: js => by rw [ofItems, statesItems, states_ofJson j, statesItems_ofItems js]; rfl

theorem statesMembers_ofMembers : ∀ (members : List (String × Json)) (entries),
    (∀ entry ∈ ofMembers members, entry ∈ entries) → statesMembers entries members = true
  | [], _, _ => rfl
  | (name, j) :: members, entries, within => by
    obtain ⟨first, rest⟩ := List.forall_mem_cons.mp within
    rw [statesMembers, statesMembers_ofMembers members entries rest, Bool.and_true,
      List.any_eq_true]
    exact ⟨_, first, by simp [isKey, states_ofJson j]⟩

end

/-! ### Tables -/

section
variable {t : Table α} {name : String} {value : α}

theorem mem_of_get? (h : Table.get? t name = some value) : (name, value) ∈ t := by
  induction t with
  | nil => cases h
  | cons entry rest ih =>
    obtain ⟨key, old⟩ := entry
    rw [Table.get?] at h
    split at h
    next same =>
      cases same
      cases h
      exact List.mem_cons_self
    next => exact List.mem_cons_of_mem _ (ih h)

theorem mem_insert {entry : String × α} (h : entry ∈ Table.insert t name value) :
    entry = (name, value) ∨ entry ∈ t := by
  induction t with
  | nil => exact .inl (List.mem_singleton.mp h)
  | cons first rest ih =>
    obtain ⟨key, old⟩ := first
    rw [Table.insert] at h
    split at h
    · rcases List.mem_cons.mp h with rfl | h
      · exact .inl rfl
      · exact .inr (List.mem_cons_of_mem _ h)
    · split at h
      · exact List.mem_cons.mp h
      · rcases List.mem_cons.mp h with rfl | h
        · exact .inr List.mem_cons_self
        · exact (ih h).imp_right (List.mem_cons_of_mem _)

theorem sorted_insert (sorted : Table.Sorted t) (name : String) (value : α) :
    Table.Sorted (Table.insert t name value) := by
  induction t with
  | nil => exact List.pairwise_singleton _ _
  | cons first rest ih =>
    obtain ⟨key, old⟩ := first
    obtain ⟨hfirst, hrest⟩ := List.pairwise_cons.mp sorted
    rw [Table.insert]
    split
    next same => exact List.pairwise_cons.mpr ⟨same ▸ hfirst, hrest⟩
    next differ =>
      split
      next before =>
        refine List.pairwise_cons.mpr ⟨fun entry hentry => ?_, sorted⟩
        rcases List.mem_cons.mp hentry with rfl | hentry
        · exact before
        · exact String.lt_trans before (hfirst entry hentry)
      next after =>
        refine List.pairwise_cons.mpr ⟨fun entry hentry => ?_, ih hrest⟩
        rcases mem_insert hentry with rfl | hentry
        · rcases Std.lt_trichotomy key name with hlt | heq | hgt
          · exact hlt
          · exact absurd heq differ
          · exact absurd hgt after
        · exact hfirst entry hentry

theorem sorted_extend (sorted : Table.Sorted t) (entries : List (String × α)) :
    Table.Sorted (Table.extend t entries) := by
  induction entries generalizing t with
  | nil => exact sorted
  | cons entry rest ih => exact ih (sorted_insert sorted entry.1 entry.2)

theorem sorted_ofEntries (entries : List (String × α)) : Table.Sorted (Table.ofEntries entries) :=
  sorted_extend .nil entries

theorem distinct_of_sorted (sorted : Table.Sorted t) : t.Pairwise fun a b => a.1 ≠ b.1 :=
  List.Pairwise.imp (fun h => String.ne_of_lt h) sorted

/-- A name that comes after all others is stored at the end. -/
theorem insert_last (after : ∀ entry ∈ t, entry.1 < name) (value : α) :
    Table.insert t name value = t ++ [(name, value)] := by
  induction t with
  | nil => rfl
  | cons first rest ih =>
    obtain ⟨key, old⟩ := first
    obtain ⟨hfirst, hrest⟩ := List.forall_mem_cons.mp after
    have hne : key ≠ name := fun heq => String.lt_irrefl name (heq ▸ hfirst)
    rw [Table.insert, if_neg hne, if_neg (String.lt_asymm hfirst), ih hrest]
    rfl

/-- Entries that come in order after those of a table are stored behind them. -/
theorem extend_sorted {entries : List (String × α)} (sorted : Table.Sorted (t ++ entries)) :
    Table.extend t entries = t ++ entries := by
  induction entries generalizing t with
  | nil => exact (List.append_nil t).symm
  | cons entry rest ih =>
    obtain ⟨-, -, between⟩ := List.pairwise_append.mp sorted
    have hlast := insert_last (fun first hfirst => between first hfirst entry List.mem_cons_self)
      entry.2
    have hsplit : t ++ entry :: rest = (t ++ [entry]) ++ rest := by simp
    rw [hsplit] at sorted ⊢
    exact (congrArg (Table.extend · rest) hlast).trans (ih sorted)

theorem ofEntries_sorted (sorted : Table.Sorted t) : Table.ofEntries t = t :=
  extend_sorted sorted

/-- Entries of distinct names make the same table in any order. -/
theorem ofEntries_perm {entries others : List (String × α)} (perm : entries.Perm others)
    (distinct : entries.Pairwise fun a b => a.1 ≠ b.1) :
    Table.ofEntries entries = Table.ofEntries others := by
  refine perm.foldl_eq' (fun x hx y hy z => ?_) []
  by_cases h : x.1 = y.1
  · obtain rfl : x = y := by
      exact List.inj_on_of_nodup_map (List.pairwise_map.mpr distinct) hx hy h
    rfl
  · exact Table.insert_comm z x.2 y.2 h

end

/-! ### Scalars -/

theorem text_reads (s : String) : ReadsAs string? (.string s) s := by
  intro d h
  rw [states_string.mp h]
  rfl

theorem truth_reads (b : Bool) : ReadsAs bool? (.bool b) b := by
  intro d h
  rcases states_bool.mp h with rfl | rfl
  · rfl
  · cases b <;> rfl

theorem digitChar_lead : ∀ n < 10, 0 < n → Nat.digitChar n ≠ '0' ∧ Nat.digitChar n ≠ '+' := by
  decide

/-- The digits of a positive number do not begin with zero. By induction on the number, which loses
its last digit. -/
theorem toDigits_lead {n : Nat} (positive : 0 < n) :
    ∃ c cs, Nat.toDigits 10 n = c :: cs ∧ c ≠ '0' ∧ c ≠ '+' := by
  induction n using Nat.strongRecOn with
  | ind n ih =>
    by_cases small : n < 10
    · rw [Nat.toDigits_of_lt_base small]
      exact ⟨_, _, rfl, digitChar_lead n small positive⟩
    · obtain ⟨c, cs, hdigits, hlead⟩ := ih (n / 10) (by omega) (by omega)
      rw [Nat.toDigits_of_base_le (by decide) (by omega), hdigits]
      exact ⟨c, _, rfl, hlead⟩

theorem readDigits_toDigits (n : Nat) : Text.readDigits (Nat.toDigits 10 n) = some n := by
  have filled : (Nat.toDigits 10 n).isEmpty = false := by
    rw [List.isEmpty_eq_false_iff]
    exact Nat.toDigits_ne_nil
  have digits : (Nat.toDigits 10 n).all Char.isDigit = true :=
    List.all_eq_true.mpr fun c hc => Nat.isDigit_of_mem_toDigits (by decide) (by decide) hc
  have value : Text.digitsValue (Nat.toDigits 10 n) = n := Nat.ofDigitChars_ten_toDigits
  rw [Text.readDigits, filled, digits, value]
  rfl

theorem plainNat?_lead {s : String} {c : Char} {cs : List Char} (chars : s.toList = c :: cs)
    (hzero : c ≠ '0') (hplus : c ≠ '+') : plainNat? s = Text.readDigits (c :: cs) := by
  unfold plainNat?
  rw [chars]
  simp [hzero, hplus]

/-- A number that is written without quotes is read in base ten: its digits have no leading zero. -/
theorem plainNat?_toString (n : Nat) : plainNat? (toString n) = some n := by
  rcases Nat.eq_zero_or_pos n with rfl | positive
  · rfl
  obtain ⟨c, cs, hdigits, hzero, hplus⟩ := toDigits_lead positive
  have chars : (toString n).toList = c :: cs := Nat.toList_repr.trans hdigits
  rw [plainNat?_lead chars hzero hplus, ← hdigits, readDigits_toDigits]

theorem nat_reads (n : Nat) : ReadsAs nat? (.ofNat n) n := by
  intro d h
  rcases states_ofNat.mp h with rfl | rfl
  · exact if_pos (Int.natCast_nonneg n)
  · exact plainNat?_toString n

theorem natBelow_reads {n limit : Nat} (below : n < limit) :
    ReadsAs (natBelow? limit) (.ofNat n) n := by
  intro d h
  rw [natBelow?, nat_reads n d h, Option.filter_some, if_pos (decide_eq_true below)]

theorem uint16_reads (n : UInt16) : ReadsAs uint16? (.ofNat n.toNat) n := by
  intro d h
  rw [uint16?, natBelow_reads n.toNat_lt d h, Option.map_some, UInt16.ofNat_toNat]

theorem uint32_reads (n : UInt32) : ReadsAs uint32? (.ofNat n.toNat) n := by
  intro d h
  rw [uint32?, natBelow_reads n.toNat_lt d h, Option.map_some, UInt32.ofNat_toNat]

theorem uint64_reads (n : UInt64) : ReadsAs uint64? (.ofNat n.toNat) n := by
  intro d h
  rw [uint64?, natBelow_reads n.toNat_lt d h, Option.map_some, UInt64.ofNat_toNat]

theorem variant_reads (name : String) : ReadsAs variant? (.string name) name := by
  intro d h
  rw [states_string.mp h]
  rfl

/-! ### Absent values -/

theorem nullable?_something {read : Document → Option α} {d : Document} {j : Json}
    (stated : states d j = true) (something : d.isNothing = false) :
    nullable? read d = (read d).map some := by
  cases d with
  | plain s =>
    have present : ¬(s == "" || isNullWord s) = true := by rw [Bool.not_eq_true]; exact something
    exact if_neg present
  | tagged tag content => simp [states] at stated
  | null => cases something
  | bool | number | string | literal | array | sequence | map | unreadable => rfl

/-- A value that may be absent is read back if its written form is never taken for an absence. -/
theorem nullable_reads {read : Document → Option α} {write : α → Json}
    (something : ∀ x d, states d (write x) = true → d.isNothing = false)
    (reads : ∀ x, ReadsAs read (write x) x) (value : Option α) :
    ReadsAs (nullable? read) ((value.map write).getD .null) value := by
  intro d h
  cases value with
  | none => rcases states_null.mp h with rfl | rfl <;> rfl
  | some x => exact (nullable?_something h (something x d h)).trans (congrArg _ (reads x d h))

theorem ofText?_eq (text : Option String) : Json.ofText? text = (text.map .string).getD .null := by
  cases text <;> rfl

theorem nullableText_reads (text : Option String) :
    ReadsAs (nullable? string?) (.ofText? text) text := by
  rw [ofText?_eq]
  refine nullable_reads (fun s d h => ?_) text_reads text
  rw [states_string.mp h]
  rfl

theorem nothing_word {s : String} (h : (Document.plain s).isNothing = true) :
    plainNat? s = none := by
  simp only [isNothing, isNullWord, Bool.or_eq_true, beq_iff_eq] at h
  rcases h with rfl | ((rfl | rfl) | rfl) | rfl <;> rfl

theorem number_something {n : Nat} {d : Document} (h : states d (.ofNat n) = true) :
    d.isNothing = false := by
  rcases states_ofNat.mp h with rfl | rfl
  · rfl
  · rw [← Bool.not_eq_true]
    intro nothing
    cases (plainNat?_toString n).symm.trans (nothing_word nothing)

theorem nullableCount_reads {read : Document → Option α} {value : α → Nat}
    (reads : ∀ x, ReadsAs read (.ofNat (value x)) x) (count : Option α) :
    ReadsAs (nullable? read) ((count.map fun x => Json.ofNat (value x)).getD .null) count :=
  nullable_reads (fun _ _ => number_something) reads count

/-! ### Lists and tables -/

theorem mapM_some {f : α → Option β} {xs : List α} {ys : List β} :
    xs.mapM f = some ys ↔ List.Forall₂ (fun x y => f x = some y) xs ys := by
  induction xs generalizing ys with
  | nil => cases ys <;> simp
  | cons x xs ih =>
    cases ys <;> simp [List.mapM_cons, Option.bind_eq_some_iff, ih]

/-- What is read from a list is read from it in any other order. -/
theorem mapM_perm {f : α → Option β} {xs others : List α} (perm : xs.Perm others) {ys : List β}
    (h : xs.mapM f = some ys) : ∃ zs, others.mapM f = some zs ∧ zs.Perm ys := by
  obtain ⟨zs, each, perm⟩ := List.perm_comp_forall₂ perm.symm (mapM_some.mp h)
  exact ⟨zs, mapM_some.mpr each, perm⟩

theorem list_reads {read : Document → Option α} {write : α → Json}
    (reads : ∀ x, ReadsAs read (write x) x) (xs : List α) :
    ReadsAs (list? read) (.array (xs.map write)) xs := by
  intro d h
  obtain ⟨ds, hd, stated⟩ := states_array.mp h
  have each := List.forall₂_map_right_iff.mp (statesItems_iff.mp stated)
  have hread : ds.mapM read = some xs := mapM_some.mpr (each.imp fun d x h => reads x d h)
  rcases hd with rfl | rfl <;> exact hread

/-- An entry of a map that is written. -/
def entryOf (field : String × Document) : Document × Document := (.string field.1, field.2)

theorem stated_each {entries : List (Document × Document)} {members : List (String × Json)}
    (stated : statesMembers entries members = true) :
    ∃ fields : Fields, (∀ field ∈ fields, entryOf field ∈ entries) ∧
      List.Forall₂ (fun field m => field.1 = m.1 ∧ states field.2 m.2 = true) fields members := by
  induction members with
  | nil => exact ⟨[], List.forall_mem_nil _, .nil⟩
  | cons m members ih =>
    obtain ⟨⟨d, hentry, hd⟩, rest⟩ := List.forall_mem_cons.mp (statesMembers_iff.mp stated)
    obtain ⟨fields, hfields, each⟩ := ih (statesMembers_iff.mpr rest)
    exact ⟨(m.1, d) :: fields, List.forall_mem_cons.mpr ⟨hentry, hfields⟩, .cons ⟨rfl, hd⟩ each⟩

/-- The entries that state the members of an object are these members, in some order. -/
theorem stated_fields {entries : List (Document × Document)} {members : List (String × Json)}
    (distinct : members.Pairwise fun a b => a.1 ≠ b.1)
    (length : entries.length = members.length)
    (stated : statesMembers entries members = true) :
    ∃ fields : Fields, (fields.map entryOf).Perm entries ∧ (fields.map Prod.fst).Nodup ∧
      List.Forall₂ (fun field m => field.1 = m.1 ∧ states field.2 m.2 = true) fields members := by
  obtain ⟨fields, within, each⟩ := stated_each stated
  have names : fields.map Prod.fst = members.map Prod.fst := by
    rw [← List.forall₂_eq_eq_eq, List.forall₂_map_left_iff, List.forall₂_map_right_iff]
    exact each.imp fun _ _ h => h.1
  have nodup : (fields.map Prod.fst).Nodup := by
    rw [names]
    exact List.pairwise_map.mpr distinct
  refine ⟨fields, ?_, nodup, each⟩
  have entriesNodup : (fields.map entryOf).Nodup := by
    refine List.Nodup.map (fun a b h => ?_) nodup.of_map
    obtain ⟨hname, hvalue⟩ := Prod.mk.inj h
    exact Prod.ext (Document.string.inj hname) hvalue
  refine (List.subperm_of_subset entriesNodup ?_).perm_of_length_le ?_
  · intro entry hentry
    obtain ⟨field, hfield, rfl⟩ := List.mem_map.mp hentry
    exact within field hfield
  · exact Nat.le_of_eq (by rw [length, List.length_map, each.length_eq])

theorem texts_reads {t : Table String} (sorted : Table.Sorted t) :
    ReadsAs textTable? (.ofTexts t) t := by
  intro d h
  obtain ⟨entries, rfl, length, stated⟩ := states_object.mp h
  have distinct : (t.map fun entry => (entry.1, Json.string entry.2)).Pairwise
      fun a b => a.1 ≠ b.1 := List.pairwise_map.mpr (distinct_of_sorted sorted)
  obtain ⟨fields, perm, -, each⟩ := stated_fields distinct length stated
  have hread : (fields.map entryOf).mapM (namedValue? string?) = some t := by
    rw [mapM_some, List.forall₂_map_left_iff]
    refine (List.forall₂_map_right_iff.mp each).imp fun field entry h => ?_
    obtain ⟨hname, hvalue⟩ := h
    rw [entryOf, namedValue?, states_string.mp hvalue, hname]
    rfl
  obtain ⟨texts, htexts, order⟩ := mapM_perm perm hread
  rw [textTable?, htexts, Option.map_some,
    ← ofEntries_perm order.symm (distinct_of_sorted sorted), ofEntries_sorted sorted]

theorem textTable?_sorted {d : Document} {t : Table String} (h : textTable? d = some t) :
    Table.Sorted t := by
  fun_induction textTable? d with
  | case1 entries =>
    obtain ⟨texts, -, rfl⟩ := Option.map_eq_some_iff.mp h
    exact sorted_ofEntries texts
  | case2 =>
    cases h
    exact .nil
  | case3 tag d ih => exact ih h
  | case4 => cases h

/-! ### Structures -/

/-- Every member of an object is stated by a field. -/
def StatesAll (fields : Fields) (members : List (String × Json)) : Prop :=
  ∀ name value, (name, value) ∈ members →
    ∃ d, fields.lookup name = some d ∧ states d value = true

theorem lookup_of_mem {fields : Fields} {name : String} {d : Document}
    (nodup : (fields.map Prod.fst).Nodup) (mem : (name, d) ∈ fields) :
    fields.lookup name = some d := by
  induction fields with
  | nil => cases mem
  | cons field fields ih =>
    obtain ⟨first, rest⟩ := List.nodup_cons.mp nodup
    rcases List.mem_cons.mp mem with rfl | mem
    · simp
    · have later : name ∈ fields.map Prod.fst := List.mem_map.mpr ⟨_, mem, rfl⟩
      have hne : name ≠ field.1 := fun heq => first (heq ▸ later)
      rw [List.lookup_cons, beq_false_of_ne hne]
      exact ih rest mem

/-- A structure whose written fields are all known is read field by field. -/
theorem fields_written (names : List String) {members : List (String × Json)} {d : Document}
    (distinct : members.Pairwise fun a b => a.1 ≠ b.1)
    (known : ∀ m ∈ members, m.1 ∈ names) (stated : states d (.ofMembers members) = true) :
    ∃ fields, d.fields? names = some fields ∧ StatesAll fields members := by
  obtain ⟨entries, rfl, length, hmembers⟩ := states_object.mp stated
  obtain ⟨fields, perm, nodup, each⟩ :=
    stated_fields (distinct_of_sorted (sorted_ofEntries members)) length hmembers
  have hnamed : (fields.map entryOf).mapM (namedValue? some) = some fields := by
    rw [mapM_some, List.forall₂_map_left_iff]
    exact List.forall₂_same.mpr fun field _ => rfl
  obtain ⟨named, hentries, order⟩ := mapM_perm perm hnamed
  have unrepeated : (named.map Prod.fst).Nodup := nodup.perm (order.map Prod.fst).symm
  have knownNodup : ((named.filter fun entry => names.contains entry.1).map Prod.fst).Nodup :=
    unrepeated.sublist (List.filter_sublist.map Prod.fst)
  refine ⟨named.filter fun entry => names.contains entry.1, ?_, fun name value mem => ?_⟩
  · simp only [fields?, knownEntries, hentries, Option.bind_eq_bind, Option.bind_some,
      Option.pure_def, if_pos knownNodup]
  · have stored := mem_of_get? (Table.get?_extend_of_mem [] distinct mem)
    obtain ⟨value', hentry, hvalue⟩ := statesMembers_iff.mp hmembers _ stored
    obtain ⟨field, hfield, heq⟩ := List.mem_map.mp (perm.mem_iff.mpr hentry)
    obtain ⟨hname, rfl⟩ := Prod.mk.inj heq
    obtain rfl := Document.string.inj hname
    refine ⟨field.2, lookup_of_mem knownNodup ?_, hvalue⟩
    exact List.mem_filter.mpr ⟨order.mem_iff.mpr hfield, List.contains_iff_mem.mpr (known _ mem)⟩

theorem bind_read {step : Option α} {rest : α → Option β} {x : α} {y : β} (read : step = some x)
    (later : rest x = some y) : step.bind rest = some y := by
  rw [read]
  exact later

/-- A field that was written is read back, and the others are read after it. -/
theorem StatesAll.required {fields : Fields} {members : List (String × Json)} {value : Json}
    {read : Document → Option α} {rest : α → Option β} {x : α} {y : β}
    (written : StatesAll fields members) (name : String) (mem : (name, value) ∈ members)
    (reads : ReadsAs read value x) (later : rest x = some y) :
    (fields.required name read).bind rest = some y := by
  obtain ⟨d, hlookup, stated⟩ := written name value mem
  refine bind_read ?_ later
  rw [Fields.required, hlookup, Option.bind_some, reads d stated]

theorem StatesAll.withDefault {fields : Fields} {members : List (String × Json)} {value : Json}
    {read : Document → Option α} {rest : α → Option β} {default x : α} {y : β}
    (written : StatesAll fields members) (name : String) (mem : (name, value) ∈ members)
    (reads : ReadsAs read value x) (later : rest x = some y) :
    (fields.withDefault name read default).bind rest = some y := by
  obtain ⟨d, hlookup, stated⟩ := written name value mem
  refine bind_read ?_ later
  rw [Fields.withDefault, hlookup]
  exact reads d stated

/-- A structure is read exactly if each of its fields is: reading goes on after a field that meets
its condition. -/
theorem isSome_step {σ : Type} {P : σ → Prop} {step : Option α} {rest : α → Option β} {first : σ}
    {others : List σ} (now : step.isSome = true ↔ P first)
    (later : ∀ a, (rest a).isSome = true ↔ ∀ other ∈ others, P other) :
    (step.bind rest).isSome = true ↔ ∀ other ∈ first :: others, P other := by
  rw [List.forall_mem_cons, ← now]
  cases step with
  | none => simp
  | some a => simp [later a]

/-- What follows from the steps of a reading follows from what is read. -/
theorem of_bind {step : Option α} {rest : α → Option β} {y : β} {P : Prop}
    (steps : ∀ x, step = some x → rest x = some y → P) : step.bind rest = some y → P := by
  intro read
  obtain ⟨x, hx, later⟩ := Option.bind_eq_some_iff.mp read
  exact steps x hx later

theorem isSome_done {σ : Type} {P : σ → Prop} (a : α) :
    (some a).isSome = true ↔ ∀ other ∈ [], P other := by
  simp

end ClusterProvisioning.Proofs
