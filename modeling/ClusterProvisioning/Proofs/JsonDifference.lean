import ClusterProvisioning.Proofs.JsonPaths

/-!
# Where two JSON values differ

`DiffersAt` bounds what a change can do to a value of any shape: there are places below which
anything may have changed, on the way to a place the outline is kept, and everything else is the
same. Changes that follow one another keep to the places of all (`DiffersAt.trans`), and a change
below a path keeps to the places below it (`DiffersAt.modifyAt`).
-/

namespace ClusterProvisioning.Proofs
open Json

/-- What is left of a value without what lies below it. -/
def outline : Json → Json
  | .object _ => .object []
  | .array items => .array (items.map fun _ => .null)
  | other => other

theorem outline_replaceStep (j : Json) (name : String) (value : Json) :
    outline (j.replaceStep name value) = outline j := by
  cases j with
  | array items =>
    unfold Json.replaceStep
    dsimp only
    split
    · simp only [outline, List.map_const', List.length_set]
    · rfl
  | object | null | bool | number | string => rfl

theorem outline_modifyAt (f : Json → Json) (j : Json) (name : String) (path : List String) :
    outline (j.modifyAt f (name :: path)) = outline j := by
  unfold Json.modifyAt
  split
  · exact outline_replaceStep j name _
  · rfl

theorem outline_withMember (j : Json) (name : String) (value : Json) :
    outline (j.withMember name value) = outline j := by
  cases j <;> rfl

theorem outline_withoutMember (j : Json) (name : String) :
    outline (j.withoutMember name) = outline j := by
  cases j <;> rfl

/-- The outline is kept, or something vacant has become an object. -/
def Outlined (vacant before after : Option Json) : Prop :=
  after.map outline = before.map outline ∨
    before = vacant ∧ ∃ members, after = some (.object members)

/-- One value differs from another at some places only. -/
def DiffersAt (vacant : Option Json) (places : List String → Prop) (before after : Json) : Prop :=
  ∀ path, (∀ place, places place → ¬place <+: path) →
    after.at? path = before.at? path ∨
      (∃ place, places place ∧ path <+: place) ∧
        Outlined vacant (before.at? path) (after.at? path)

/-- None of two paths runs through the end of the other. -/
def Elsewhere (place path : List String) : Prop :=
  ¬place <+: path ∧ ¬path <+: place

/-- Nothing else has the outline of what is vacant. -/
def Plain (vacant : Option Json) : Prop :=
  ∀ other : Option Json, other.map outline = vacant.map outline → other = vacant

/-- The name selects a place of its own, apart from that of any other name. -/
def Distinct (name : String) : Prop :=
  ∀ other, name ≠ other → Apart name other

variable {vacant : Option Json} {places : List String → Prop}

theorem plain_none : Plain none :=
  fun _ h => Option.map_eq_none_iff.mp h

theorem plain_null : Plain (some .null) := by
  intro other h
  cases other with
  | none => cases h
  | some j =>
    cases j <;> cases h
    rfl

theorem Outlined.trans (plain : Plain vacant) {before between after : Option Json}
    (first : Outlined vacant before between) (second : Outlined vacant between after) :
    Outlined vacant before after := by
  rcases second with kept | ⟨rfl, made⟩
  · rcases first with first | ⟨hbefore, members, rfl⟩
    · exact .inl (kept.trans first)
    · refine .inr ⟨hbefore, ?_⟩
      obtain ⟨j, rfl, houtline⟩ := Option.map_eq_some_iff.mp kept
      cases j with
      | object members => exact ⟨members, rfl⟩
      | null | bool | number | string | array => cases houtline
  · rcases first with first | ⟨hbefore, -⟩
    · exact .inr ⟨plain before first.symm, made⟩
    · exact .inr ⟨hbefore, made⟩

theorem Outlined.object {members : Table Json} {after : Option Json}
    (outlined : Outlined none (some (.object members)) after) :
    ∃ members, after = some (.object members) := by
  rcases outlined with kept | ⟨h, -⟩
  · obtain ⟨j, rfl, houtline⟩ := Option.map_eq_some_iff.mp kept
    cases j with
    | object members => exact ⟨members, rfl⟩
    | null | bool | number | string | array => cases houtline
  · cases h

namespace DiffersAt

theorem refl (vacant : Option Json) (places : List String → Prop) (j : Json) :
    DiffersAt vacant places j j :=
  fun _ _ => .inl rfl

/-- Nothing is said of a value that is a place as a whole. -/
theorem whole {j k : Json} (place : places []) : DiffersAt vacant places j k :=
  fun _ outside => absurd List.nil_prefix (outside [] place)

theorem trans {j k l : Json} (plain : Plain vacant) (first : DiffersAt vacant places j k)
    (second : DiffersAt vacant places k l) : DiffersAt vacant places j l := by
  intro path outside
  rcases first path outside with hfirst | ⟨toward, hfirst⟩
  · rw [← hfirst]
    exact second path outside
  · refine .inr ⟨toward, ?_⟩
    rcases second path outside with hsecond | ⟨-, hsecond⟩
    · rwa [hsecond]
    · exact hfirst.trans plain hsecond

theorem mono {others : List String → Prop} {j k : Json} (differs : DiffersAt vacant places j k)
    (h : ∀ place, places place → others place) : DiffersAt vacant others j k := by
  intro path outside
  rcases differs path fun place hplace => outside place (h place hplace) with
    same | ⟨⟨place, hplace, hpath⟩, outlined⟩
  · exact .inl same
  · exact .inr ⟨⟨place, h place hplace, hpath⟩, outlined⟩

/-- A path that leads elsewhere leads to the same. -/
theorem same {j k : Json} (differs : DiffersAt vacant places j k) {path : List String}
    (elsewhere : ∀ place, places place → Elsewhere place path) : k.at? path = j.at? path := by
  rcases differs path fun place hplace => (elsewhere place hplace).1 with
    same | ⟨⟨place, hplace, toward⟩, -⟩
  · exact same
  · exact absurd toward (elsewhere place hplace).2

/-- A member that is the same after all is no place. -/
theorem keep {j k : Json} {name : String}
    (differs : DiffersAt vacant (fun place => places place ∨ place = [name]) j k)
    (same : k.at? [name] = j.at? [name]) (inhabited : ∃ place, places place) :
    DiffersAt vacant places j k := by
  intro path outside
  by_cases below : [name] <+: path
  · obtain ⟨rest, rfl⟩ := below
    left
    rw [at?_append, at?_append, same]
  have hpath : ∀ place, places place ∨ place = [name] → ¬place <+: path := by
    rintro place (hplace | rfl)
    · exact outside place hplace
    · exact below
  rcases differs path hpath with heq | ⟨⟨place, hplace | rfl, toward⟩, outlined⟩
  · exact .inl heq
  · exact .inr ⟨⟨place, hplace, toward⟩, outlined⟩
  · obtain ⟨place, hplace⟩ := inhabited
    rcases List.prefix_cons_iff.mp toward with rfl | ⟨rest, rfl, -⟩
    · exact .inr ⟨⟨place, hplace, List.nil_prefix⟩, outlined⟩
    · exact absurd (List.cons_prefix_cons.mpr ⟨rfl, List.nil_prefix⟩) below

/-! ### Changes one step below -/

theorem of_outline {j k : Json} (h : outline k = outline j) (inhabited : ∃ place, places place) :
    k.at? [] = j.at? [] ∨ (∃ place, places place ∧ [] <+: place) ∧
      Outlined vacant (j.at? []) (k.at? []) := by
  obtain ⟨place, hplace⟩ := inhabited
  exact .inr ⟨⟨place, hplace, List.nil_prefix⟩, .inl (congrArg some h)⟩

/-- What differs at the places below a name, as seen from above the name. -/
theorem above {j k : Json} {name : String} {rest : List String}
    (h : DiffersAt vacant (fun place => places (name :: place)) j k)
    (outside : ∀ place, places place → ¬place <+: name :: rest) :
    k.at? rest = j.at? rest ∨ (∃ place, places place ∧ name :: rest <+: place) ∧
      Outlined vacant (j.at? rest) (k.at? rest) := by
  have outsideBelow : ∀ place, places (name :: place) → ¬place <+: rest :=
    fun place hplace hprefix =>
      outside (name :: place) hplace (List.cons_prefix_cons.mpr ⟨rfl, hprefix⟩)
  rcases h rest outsideBelow with same | ⟨⟨place, hplace, toward⟩, outlined⟩
  · exact .inl same
  · exact .inr ⟨⟨_, hplace, List.cons_prefix_cons.mpr ⟨rfl, toward⟩⟩, outlined⟩

/-- Only the value one step below differs. -/
theorem replaceStep {j below changed : Json} {name : String} (distinct : Distinct name)
    (place : j.step? name = some below) (inhabited : ∃ place, places place)
    (h : DiffersAt vacant (fun place => places (name :: place)) below changed) :
    DiffersAt vacant places j (j.replaceStep name changed) := by
  intro path outside
  cases path with
  | nil => exact of_outline (outline_replaceStep j name changed) inhabited
  | cons other rest =>
    by_cases same : name = other
    · subst same
      simp only [Json.at?, place, step?_replaceStep_self changed place, Option.bind_some]
      exact h.above outside
    · left
      simp only [Json.at?, step?_replaceStep_apart j changed (distinct other same)]

/-- Only the value at the end of a path differs. -/
theorem modifyAt {j : Json} {f : Json → Json} (path : List String) {last : String}
    (distinct : ∀ name ∈ path ++ [last], Distinct name)
    (inhabited : ∃ place, places (path ++ place))
    (h : ∀ below, j.at? (path ++ [last]) = some below →
      DiffersAt vacant (fun place => places (path ++ last :: place)) below (f below)) :
    DiffersAt vacant places j (j.modifyAt f (path ++ [last])) := by
  induction path generalizing j places with
  | nil =>
    simp only [List.nil_append, Json.modifyAt]
    split
    next below place =>
      refine replaceStep (distinct last (List.mem_singleton_self last)) place inhabited (h below ?_)
      simp only [List.nil_append, Json.at?, place, Option.bind_some]
    next => exact refl vacant places j
  | cons name path ih =>
    obtain ⟨hname, hpath⟩ := List.forall_mem_cons.mp distinct
    simp only [List.cons_append, Json.modifyAt]
    split
    next below place =>
      obtain ⟨rest, hrest⟩ := inhabited
      refine replaceStep hname place ⟨_, hrest⟩ (ih hpath ⟨rest, hrest⟩ fun value hvalue => ?_)
      refine h value ?_
      simp only [List.cons_append, Json.at?, place, Option.bind_some]
      exact hvalue
    next => exact refl vacant places j

/-! ### Members -/

theorem withMember (j : Json) {name : String} (value : Json) (place : places [name]) :
    DiffersAt vacant places j (j.withMember name value) := by
  intro path outside
  cases path with
  | nil => exact of_outline (outline_withMember j name value) ⟨_, place⟩
  | cons other rest =>
    have hne : name ≠ other := by
      rintro rfl
      exact outside [name] place (List.cons_prefix_cons.mpr ⟨rfl, List.nil_prefix⟩)
    exact .inl (at?_withMember_of_ne j value rest hne)

/-- A member is set in an object that null makes way for. -/
theorem ofNull {name : String} (value : Json) (place : places [name]) :
    DiffersAt (some .null) places .null (.object [(name, value)]) := by
  intro path outside
  cases path with
  | nil => exact .inr ⟨⟨_, place, List.nil_prefix⟩, .inr ⟨rfl, _, rfl⟩⟩
  | cons other rest =>
    have hne : name ≠ other := by
      rintro rfl
      exact outside [name] place (List.cons_prefix_cons.mpr ⟨rfl, List.nil_prefix⟩)
    left
    simp only [Json.at?, Json.step?, Table.get?, if_neg hne, Option.bind_none]

theorem withoutMember (j : Json) {name : String} (place : places [name]) :
    DiffersAt vacant places j (j.withoutMember name) := by
  intro path outside
  cases path with
  | nil => exact of_outline (outline_withoutMember j name) ⟨_, place⟩
  | cons other rest =>
    have hne : name ≠ other := by
      rintro rfl
      exact outside [name] place (List.cons_prefix_cons.mpr ⟨rfl, List.nil_prefix⟩)
    exact .inl (at?_withoutMember_of_ne j rest hne)

theorem withoutMembers (plain : Plain vacant) (j : Json) {names : List String}
    (all : ∀ name ∈ names, places [name]) :
    DiffersAt vacant places j (names.foldl Json.withoutMember j) := by
  induction names generalizing j with
  | nil => exact refl vacant places j
  | cons name names ih =>
    obtain ⟨hname, hnames⟩ := List.forall_mem_cons.mp all
    exact (withoutMember j hname).trans plain (ih (j.withoutMember name) hnames)

/-- A member is changed, or made from an empty object and changed then. -/
theorem fill (g : Json → Json) (members : Table Json) {name : String}
    (inhabited : ∃ place, places (name :: place))
    (h : ∀ below, DiffersAt none (fun place => places (name :: place)) below (g below)) :
    DiffersAt none places (.object members) ((Json.object members).withMember name
      (g ((Table.get? members name).getD (.object [])))) := by
  obtain ⟨place, hplace⟩ := inhabited
  intro path outside
  cases path with
  | nil => exact of_outline rfl ⟨_, hplace⟩
  | cons other rest =>
    by_cases same : name = other
    · subst same
      simp only [Json.withMember, Json.at?, Json.step?, Table.get?_insert_self, Option.bind_some]
      cases hmember : Table.get? members name with
      | some below => exact (h below).above outside
      | none =>
        rw [Option.bind_none, Option.getD_none]
        have made := (h (.object [])).above outside
        cases rest with
        | nil =>
          -- The empty object that the member is made from stands where nothing stood.
          have toward : [name] <+: name :: place :=
            List.cons_prefix_cons.mpr ⟨rfl, List.nil_prefix⟩
          refine .inr ⟨⟨_, hplace, toward⟩, .inr ⟨rfl, ?_⟩⟩
          rcases made with same | ⟨-, outlined⟩
          · exact ⟨[], same⟩
          · exact outlined.object
        | cons => exact made
    · exact .inl (at?_withMember_of_ne _ _ rest same)

end DiffersAt

/-! ### Names -/

theorem le_foldl_digits (cs : List Char) (start : Nat) :
    start ≤ cs.foldl (fun value c => 10 * value + Text.digitValue c) start := by
  induction cs generalizing start with
  | nil => exact Nat.le_refl start
  | cons c cs ih =>
    refine Nat.le_trans ?_ (ih _)
    dsimp only
    omega

/-- No digits that lead with another one write zero. -/
theorem lead_of_zero {c : Char} {cs : List Char} (digit : c.isDigit = true)
    (h : Text.digitsValue (c :: cs) = 0) : c = '0' := by
  have hle : 10 * 0 + Text.digitValue c ≤ Text.digitsValue (c :: cs) := le_foldl_digits cs _
  rw [h] at hle
  have hdigit : '0'.toNat ≤ c.toNat := by
    rw [Char.isDigit, Bool.and_eq_true, decide_eq_true_eq] at digit
    exact digit.1
  unfold Text.digitValue at hle
  exact Char.toNat_inj.mp (by omega)

theorem position?_zero {name : String} (h : position? name = some 0) : name = "0" := by
  unfold position? at h
  split at h
  next hname => exact String.toList_inj.mp hname
  next => cases h
  next _ leading =>
    cases hname : name.toList with
    | nil =>
      rw [hname] at h
      cases h
    | cons c cs =>
      rw [hname] at h leading
      unfold Text.readDigits at h
      rw [if_neg (by simp)] at h
      split at h
      next digits =>
        have hlead := lead_of_zero (List.all_eq_true.mp digits c List.mem_cons_self)
          (Option.some.inj h)
        exact absurd (by rw [hlead]) (leading cs)
      next => cases h

/-- Words and the first position select places of their own. -/
theorem distinct_path {path : List String}
    (h : ∀ name ∈ path, position? name = none ∨ name = "0") : ∀ name ∈ path, Distinct name := by
  intro name hname other hne
  rcases h name hname with word | rfl
  · exact ⟨hne, .inl word⟩
  · refine ⟨hne, .inr fun heq => hne ?_⟩
    exact (position?_zero (heq.symm.trans (by decide))).symm

end ClusterProvisioning.Proofs
