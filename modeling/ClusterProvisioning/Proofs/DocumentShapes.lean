import ClusterProvisioning.Proofs.DocumentReading

/-!
# Shapes of JSON values

What a reader of values expects is a shape, and what a value has against a shape is a misfit: a
value of another sort, a number out of bounds, an unknown variant, a structure with too many items
or without a field that is needed, or any of these in a part of it. A reader judges a shape if it
accepts exactly the values with no misfit (`Judges`). The readers of fields do, and so does every
reader that goes through the fields of a structure one by one (`judges_record`).
-/

namespace ClusterProvisioning.Proofs
open Document

variable {α β : Type}

/-- The form that a value is expected to have. -/
inductive Shape where
  | text
  | truth
  /-- A natural number below a limit. -/
  | count (limit : Nat)
  | nullable (shape : Shape)
  | list (item : Shape)
  /-- An object whose members are texts. -/
  | texts
  | variants (names : List String)
  /-- A structure: its fields in order, each with its name and whether it must be given. -/
  | record (fields : List (String × Bool × Shape))

/-- A value names a variant: as a text, or as an object whose one member is null. -/
def Names (j : Json) (name : String) : Prop :=
  j = .string name ∨ j = .object [(name, .null)]

/-- What a value gives a field of a structure, by its name or by its place among the names. -/
def fieldOf? (names : List String) : Json → String → Option Json
  | .object members, name => Table.get? members name
  | .array items, name => (names.zip items).lookup name
  | _, _ => none

/-- A reason to refuse a value. -/
inductive Misfit : Shape → Json → Prop
  | text {j : Json} (sort : ∀ s, j ≠ .string s) : Misfit .text j
  | truth {j : Json} (sort : ∀ b, j ≠ .bool b) : Misfit .truth j
  | noNumber {limit : Nat} {j : Json} (sort : ∀ n, j ≠ .number n) : Misfit (.count limit) j
  | outside {limit : Nat} {n : Json.Number} (width : ∀ k < limit, n ≠ .whole k) :
      Misfit (.count limit) (.number n)
  | nullable {shape : Shape} {j : Json} (present : j ≠ .null) (misfit : Misfit shape j) :
      Misfit (.nullable shape) j
  | noList {item : Shape} {j : Json} (sort : ∀ items, j ≠ .array items) : Misfit (.list item) j
  | item {item : Shape} {items : List Json} {j : Json} (mem : j ∈ items) (misfit : Misfit item j) :
      Misfit (.list item) (.array items)
  | noTexts {j : Json} (sort : ∀ members, j ≠ .object members) : Misfit .texts j
  | entry {members : List (String × Json)} {name : String} {j : Json} (mem : (name, j) ∈ members)
      (sort : ∀ s, j ≠ .string s) : Misfit .texts (.object members)
  | noVariant {names : List String} {j : Json} (sort : ∀ name, ¬Names j name) :
      Misfit (.variants names) j
  | unknown {names : List String} {j : Json} {name : String} (named : Names j name)
      (other : name ∉ names) : Misfit (.variants names) j
  | noRecord {fields : List (String × Bool × Shape)} {j : Json}
      (sort : (∀ members, j ≠ .object members) ∧ ∀ items, j ≠ .array items) :
      Misfit (.record fields) j
  | tooMany {fields : List (String × Bool × Shape)} {items : List Json}
      (more : fields.length < items.length) : Misfit (.record fields) (.array items)
  | missing {fields : List (String × Bool × Shape)} {name : String} {shape : Shape} {j : Json}
      (field : (name, true, shape) ∈ fields) (absent : fieldOf? (fields.map (·.1)) j name = none) :
      Misfit (.record fields) j
  | field {fields : List (String × Bool × Shape)} {name : String} {needed : Bool} {shape : Shape}
      {j value : Json} (field : (name, needed, shape) ∈ fields)
      (given : fieldOf? (fields.map (·.1)) j name = some value) (misfit : Misfit shape value) :
      Misfit (.record fields) j

/-- No object in a value has two members of one name. -/
inductive Unambiguous : Json → Prop
  | null : Unambiguous .null
  | bool (b : Bool) : Unambiguous (.bool b)
  | number (n : Json.Number) : Unambiguous (.number n)
  | string (s : String) : Unambiguous (.string s)
  | array {items : List Json} (each : ∀ j ∈ items, Unambiguous j) : Unambiguous (.array items)
  | object {members : List (String × Json)} (distinct : (members.map Prod.fst).Nodup)
      (each : ∀ m ∈ members, Unambiguous m.2) : Unambiguous (.object members)

/-- A reader accepts the values that fit a shape. -/
def Judges (read : Document → Option α) (shape : Shape) : Prop :=
  ∀ j, Unambiguous j → ((read (.ofJson j)).isSome = true ↔ ¬Misfit shape j)

/-! ### Values of a field -/

theorem judges_text : Judges string? .text := by
  intro j _
  have misfit : Misfit .text j ↔ ∀ s, j ≠ .string s :=
    ⟨fun h => by cases h; assumption, .text⟩
  rw [misfit]
  cases j <;> simp [ofJson, string?]

theorem judges_truth : Judges bool? .truth := by
  intro j _
  have misfit : Misfit .truth j ↔ ∀ b, j ≠ .bool b :=
    ⟨fun h => by cases h; assumption, .truth⟩
  rw [misfit]
  cases j <;> simp [ofJson, bool?]

theorem natBelow?_isSome {limit : Nat} {n : Json.Number} :
    (natBelow? limit (.number n)).isSome = true ↔ ∃ k < limit, n = .whole k := by
  constructor
  · intro h
    obtain ⟨k, hk⟩ := Option.isSome_iff_exists.mp h
    obtain ⟨hnat, hlt⟩ := Option.filter_eq_some_iff.mp hk
    refine ⟨k, of_decide_eq_true hlt, ?_⟩
    cases n with
    | whole value =>
      rw [nat?] at hnat
      split at hnat
      next positive =>
        cases hnat
        rw [Int.toNat_of_nonneg positive]
      next => cases hnat
    | real => cases hnat
  · rintro ⟨k, hlt, rfl⟩
    have hnat : nat? (.number (.whole k)) = some k := if_pos (Int.natCast_nonneg k)
    rw [natBelow?, hnat, Option.filter_some, if_pos (decide_eq_true hlt)]
    rfl

theorem judges_natBelow (limit : Nat) : Judges (natBelow? limit) (.count limit) := by
  intro j _
  cases j with
  | number n =>
    have misfit : Misfit (.count limit) (.number n) ↔ ∀ k < limit, n ≠ .whole k := by
      refine ⟨fun h => ?_, .outside⟩
      cases h with
      | noNumber sort => exact absurd rfl (sort n)
      | outside width => exact width
    rw [misfit, ofJson, natBelow?_isSome]
    push Not
    rfl
  | null | bool | string | array | object =>
    refine iff_of_false Bool.false_ne_true (not_not_intro (.noNumber fun n => ?_))
    exact Json.noConfusion

theorem judges_uint16 : Judges uint16? (.count UInt16.size) := by
  intro j h
  rw [uint16?, Option.isSome_map, judges_natBelow _ j h]

theorem judges_uint32 : Judges uint32? (.count UInt32.size) := by
  intro j h
  rw [uint32?, Option.isSome_map, judges_natBelow _ j h]

theorem judges_uint64 : Judges uint64? (.count UInt64.size) := by
  intro j h
  rw [uint64?, Option.isSome_map, judges_natBelow _ j h]

theorem judges_nullable {read : Document → Option α} {shape : Shape} (judges : Judges read shape) :
    Judges (nullable? read) (.nullable shape) := by
  intro j h
  have misfit : Misfit (.nullable shape) j ↔ j ≠ .null ∧ Misfit shape j :=
    ⟨fun h => by cases h; exact ⟨‹_›, ‹_›⟩, fun h => .nullable h.1 h.2⟩
  rw [misfit]
  cases j with
  | null => simp [ofJson, nullable?]
  | bool | number | string | array | object =>
    rw [not_and, ← judges _ h]
    simp [ofJson, nullable?]

/-! ### Lists and tables -/

theorem ofItems_eq (items : List Json) : ofItems items = items.map ofJson := by
  induction items with
  | nil => rfl
  | cons j items ih => rw [ofItems, ih, List.map_cons]

theorem ofMembers_eq (members : List (String × Json)) :
    ofMembers members = members.map fun m => (.string m.1, ofJson m.2) := by
  induction members with
  | nil => rfl
  | cons m members ih => rw [ofMembers, ih, List.map_cons]

theorem isSome_mapM {f : α → Option β} {xs : List α} :
    (xs.mapM f).isSome = true ↔ ∀ x ∈ xs, (f x).isSome = true := by
  induction xs with
  | nil => simp
  | cons x xs ih =>
    rw [List.mapM_cons, List.forall_mem_cons, ← ih]
    cases f x <;> cases xs.mapM f <;> simp

theorem judges_list {read : Document → Option α} {item : Shape} (judges : Judges read item) :
    Judges (list? read) (.list item) := by
  intro j h
  cases j with
  | array items =>
    have each : ∀ j ∈ items, Unambiguous j := by
      cases h
      assumption
    have misfit : Misfit (.list item) (.array items) ↔ ∃ j ∈ items, Misfit item j := by
      refine ⟨fun h => ?_, fun ⟨j, mem, h⟩ => .item mem h⟩
      cases h with
      | noList sort => exact absurd rfl (sort items)
      | item mem h => exact ⟨_, mem, h⟩
    rw [misfit, ofJson, list?, isSome_mapM, ofItems_eq, List.forall_mem_map]
    push Not
    exact forall₂_congr fun j mem => judges j (each j mem)
  | null | bool | number | string | object =>
    refine iff_of_false Bool.false_ne_true (not_not_intro (.noList fun items => ?_))
    exact Json.noConfusion

theorem judges_texts : Judges textTable? .texts := by
  intro j h
  cases j with
  | object members =>
    have misfit : Misfit .texts (.object members) ↔
        ∃ m ∈ members, ∀ s, m.2 ≠ .string s := by
      refine ⟨fun h => ?_, fun ⟨m, mem, h⟩ => .entry mem h⟩
      cases h with
      | noTexts sort => exact absurd rfl (sort members)
      | entry mem h => exact ⟨_, mem, h⟩
    rw [misfit, ofJson, textTable?, Option.isSome_map, isSome_mapM, ofMembers_eq,
      List.forall_mem_map]
    push Not
    refine forall₂_congr fun m _ => ?_
    obtain ⟨name, value⟩ := m
    cases value <;> simp [namedValue?, ofJson, string?]
  | null | bool | number | string | array =>
    refine iff_of_false Bool.false_ne_true (not_not_intro (.noTexts fun items => ?_))
    exact Json.noConfusion

/-! ### Variants -/

theorem variant?_iff {j : Json} {name : String} :
    (ofJson j).variant? = some name ↔ Names j name := by
  cases j with
  | object members =>
    rcases members with _ | ⟨⟨key, value⟩, _ | ⟨second, rest⟩⟩
    · simp [ofJson, ofMembers, variant?, word?, string?, Names]
    · cases value <;> simp [ofJson, ofMembers, variant?, word?, string?, Names]
    · simp [ofJson, ofMembers, variant?, word?, string?, Names]
  | null | bool | number | string | array => simp [ofJson, variant?, word?, string?, Names]

theorem judges_variants {read : Document → Option α} {names : List String}
    (accepts : ∀ d, (read d).isSome = true ↔ ∃ name ∈ names, d.variant? = some name) :
    Judges read (.variants names) := by
  intro j _
  simp only [accepts, variant?_iff]
  constructor
  · rintro ⟨name, known, named⟩ misfit
    cases misfit with
    | noVariant sort => exact sort name named
    | @unknown _ _ other hother unknown =>
      have same := (variant?_iff.mpr named).symm.trans (variant?_iff.mpr hother)
      exact unknown (Option.some.inj same ▸ known)
  · intro fits
    by_contra none
    push Not at none
    by_cases named : ∃ name, Names j name
    · obtain ⟨name, named⟩ := named
      exact fits (.unknown named fun known => none name known named)
    · push Not at named
      exact fits (.noVariant named)

/-! ### Structures -/

/-- The fields that are read from a value are what the value gives them. -/
structure Agrees (names : List String) (fields : Fields) (j : Json) : Prop where
  lookup : ∀ name ∈ names, fields.lookup name = (fieldOf? names j name).map ofJson
  unambiguous : ∀ name value, fieldOf? names j name = some value → Unambiguous value

/-- What a value gives a field fits, and it gives one that is needed. -/
def FieldFits (names : List String) (j : Json) (field : String × Bool × Shape) : Prop :=
  (field.2.1 = true → fieldOf? names j field.1 ≠ none) ∧
    ∀ value, fieldOf? names j field.1 = some value → ¬Misfit field.2.2 value

/-- The value is an object, or an array of no more items than there are fields. -/
def Listed (count : Nat) (j : Json) : Prop :=
  (∃ members, j = .object members) ∨ ∃ items, j = .array items ∧ items.length ≤ count

section
variable {names : List String} {fields : Fields} {j : Json} {name : String} {shape : Shape}

theorem Agrees.required {read : Document → Option α} (agrees : Agrees names fields j)
    (mem : name ∈ names) (judges : Judges read shape) :
    (fields.required name read).isSome = true ↔ FieldFits names j (name, true, shape) := by
  unfold Fields.required FieldFits
  rw [agrees.lookup name mem]
  cases given : fieldOf? names j name with
  | none => simp
  | some value => simp [judges value (agrees.unambiguous name value given)]

theorem Agrees.withDefault {read : Document → Option α} (agrees : Agrees names fields j)
    (mem : name ∈ names) (judges : Judges read shape) (default : α) :
    (fields.withDefault name read default).isSome = true ↔
      FieldFits names j (name, false, shape) := by
  unfold Fields.withDefault FieldFits
  rw [agrees.lookup name mem]
  cases given : fieldOf? names j name with
  | none => simp
  | some value => simp [judges value (agrees.unambiguous name value given)]

theorem Agrees.optional {read : Document → Option α} (agrees : Agrees names fields j)
    (mem : name ∈ names) (judges : Judges read shape) :
    (fields.optional name read).isSome = true ↔
      FieldFits names j (name, false, .nullable shape) :=
  agrees.withDefault mem (judges_nullable judges) none

end

theorem lookup_known {names : List String} {name : String} (known : name ∈ names)
    (members : List (String × Json)) :
    ((members.map fun m => (m.1, ofJson m.2)).filter fun entry => names.contains entry.1).lookup
      name = (Table.get? members name).map ofJson := by
  induction members with
  | nil => rfl
  | cons m members ih =>
    rw [List.map_cons, List.filter_cons, Table.get?]
    by_cases same : m.1 = name
    · rw [if_pos same, if_pos (by simpa [same] using known)]
      simp [same]
    · rw [if_neg same, ← ih]
      split
      · rw [List.lookup_cons, beq_false_of_ne (Ne.symm same)]
      · rfl

theorem lookup_zip (names : List String) (items : List Json) (name : String) :
    (names.zip (items.map ofJson)).lookup name = ((names.zip items).lookup name).map ofJson := by
  induction names generalizing items with
  | nil => rfl
  | cons first names ih =>
    cases items with
    | nil => rfl
    | cons item items =>
      simp only [List.map_cons, List.zip_cons_cons, List.lookup_cons]
      cases name == first
      · exact ih items
      · rfl

theorem mem_of_lookup {entries : List (String × α)} {name : String} {value : α}
    (h : entries.lookup name = some value) : (name, value) ∈ entries := by
  obtain ⟨earlier, later, rfl, -⟩ := List.lookup_eq_some_iff.mp h
  exact List.mem_append_right _ List.mem_cons_self

theorem fields?_object {names : List String} {members : List (String × Json)}
    (h : Unambiguous (.object members)) :
    ∃ fields, (ofJson (.object members)).fields? names = some fields ∧
      Agrees names fields (.object members) := by
  cases h with
  | object distinct each =>
    have hnamed : (ofMembers members).mapM (namedValue? some) =
        some (members.map fun m => (m.1, ofJson m.2)) := by
      rw [ofMembers_eq, mapM_some, List.forall₂_map_left_iff, List.forall₂_map_right_iff]
      exact List.forall₂_same.mpr fun m _ => rfl
    have nodup : (((members.map fun m => (m.1, ofJson m.2)).filter fun entry =>
        names.contains entry.1).map Prod.fst).Nodup := by
      refine List.Nodup.sublist (List.filter_sublist.map Prod.fst) ?_
      rw [List.map_map]
      exact distinct
    refine ⟨_, ?_, fun name known => lookup_known known members, fun name value given => ?_⟩
    · simp only [ofJson, fields?, knownEntries, hnamed, Option.bind_eq_bind, Option.bind_some,
        Option.pure_def, if_pos nodup]
    · exact each _ (mem_of_get? given)

theorem fields?_array {names : List String} {items : List Json}
    (h : Unambiguous (.array items)) (few : items.length ≤ names.length) :
    ∃ fields, (ofJson (.array items)).fields? names = some fields ∧
      Agrees names fields (.array items) := by
  cases h with
  | array each =>
    refine ⟨names.zip (items.map ofJson), ?_, fun name _ => lookup_zip names items name,
      fun name value given => ?_⟩
    · rw [ofJson, fields?, ofItems_eq, List.length_map, if_pos few]
    · exact each value (List.of_mem_zip (mem_of_lookup given)).2

theorem misfit_record {specs : List (String × Bool × Shape)} {j : Json} :
    ¬Misfit (.record specs) j ↔ Listed specs.length j ∧
      ∀ spec ∈ specs, FieldFits (specs.map (·.1)) j spec := by
  constructor
  · intro fits
    refine ⟨?_, fun spec mem => ⟨fun needed absent => ?_, fun value given misfit => ?_⟩⟩
    · cases j with
      | object members => exact .inl ⟨members, rfl⟩
      | array items => exact .inr ⟨items, rfl, Nat.le_of_not_lt fun more => fits (.tooMany more)⟩
      | null | bool | number | string =>
        exact absurd (.noRecord ⟨fun _ => Json.noConfusion, fun _ => Json.noConfusion⟩) fits
    · obtain ⟨name, _, shape⟩ := spec
      obtain rfl : _ = true := needed
      exact fits (.missing mem absent)
    · exact fits (.field mem given misfit)
  · rintro ⟨listed, fits⟩ misfit
    cases misfit with
    | noRecord sort =>
      rcases listed with ⟨members, rfl⟩ | ⟨items, rfl, -⟩
      · exact sort.1 members rfl
      · exact sort.2 items rfl
    | tooMany more =>
      rcases listed with ⟨members, h⟩ | ⟨items, h, few⟩
      · cases h
      · cases h
        omega
    | missing field absent => exact (fits _ field).1 rfl absent
    | field field given misfit => exact (fits _ field).2 _ given misfit

/-- A structure that is read field by field accepts the values whose fields fit. -/
theorem judges_record {read : Document → Option α} {next : Fields → Option α}
    {specs : List (String × Bool × Shape)}
    (reads : ∀ d, read d = (d.fields? (specs.map (·.1))).bind next)
    (accepts : ∀ fields j, Agrees (specs.map (·.1)) fields j →
      ((next fields).isSome = true ↔ ∀ spec ∈ specs, FieldFits (specs.map (·.1)) j spec)) :
    Judges read (.record specs) := by
  intro j h
  rw [misfit_record, reads]
  have judged : Listed specs.length j → ∀ fields, (ofJson j).fields? (specs.map (·.1)) =
      some fields → Agrees (specs.map (·.1)) fields j →
      ((((ofJson j).fields? (specs.map (·.1))).bind next).isSome = true ↔
        Listed specs.length j ∧ ∀ spec ∈ specs, FieldFits (specs.map (·.1)) j spec) := by
    intro listed fields hfields agrees
    rw [hfields, Option.bind_some, accepts fields j agrees]
    exact (and_iff_right listed).symm
  cases j with
  | object members =>
    obtain ⟨fields, hfields, agrees⟩ := fields?_object h
    exact judged (.inl ⟨members, rfl⟩) fields hfields agrees
  | array items =>
    by_cases few : items.length ≤ specs.length
    · have hfew : items.length ≤ (specs.map (·.1)).length := by rwa [List.length_map]
      obtain ⟨fields, hfields, agrees⟩ := fields?_array h hfew
      exact judged (.inr ⟨items, rfl, few⟩) fields hfields agrees
    · refine iff_of_false ?_ ?_
      · rw [ofJson, fields?, ofItems_eq, List.length_map, List.length_map, if_neg few]
        exact Bool.false_ne_true
      · rintro ⟨⟨members, h⟩ | ⟨others, h, hfew⟩, -⟩
        · cases h
        · cases h
          exact few hfew
  | null | bool | number | string =>
    refine iff_of_false Bool.false_ne_true ?_
    rintro ⟨⟨members, h⟩ | ⟨items, h, -⟩, -⟩ <;> cases h

end ClusterProvisioning.Proofs
