import ClusterProvisioning.Proofs.JsonPaths

/-!
# Changes that follow one another

Two changes at one path are one change there (`modifyAt_modifyAt`), and changes at paths that part
come to the same in either order (`modifyAt_comm`). So a value that absorbs a change (`Absorbs`) still
does after changes elsewhere. Nothing is asked of the order in which an object lists its members,
and a change that finds the value it makes is therefore not always one that leaves all as it is.
-/

namespace ClusterProvisioning.Proofs
open Json

theorem Apart.symm {name other : String} (apart : Apart name other) : Apart other name := by
  obtain ⟨hne, h⟩ := apart
  refine ⟨hne.symm, ?_⟩
  by_cases hother : position? other = none
  · exact .inl hother
  · refine .inr fun heq => ?_
    rcases h with hname | hdiffer
    · exact hother (heq.trans hname)
    · exact hdiffer heq.symm

/-! ### Single steps -/

theorem replaceStep_replaceStep_self (j : Json) (name : String) (old value : Json) :
    (j.replaceStep name old).replaceStep name value = j.replaceStep name value := by
  cases j with
  | object members => simp only [replaceStep, Table.insert_insert_self]
  | array items =>
    cases hname : position? name with
    | none => simp only [replaceStep, hname]
    | some i => simp only [replaceStep, hname, List.set_set]
  | null | bool | number | string => rfl

theorem replaceStep_comm (j : Json) {name other : String} (value second : Json)
    (apart : Apart name other) :
    (j.replaceStep name value).replaceStep other second =
      (j.replaceStep other second).replaceStep name value := by
  cases j with
  | object members => simp only [replaceStep, Table.insert_comm members value second apart.1]
  | array items =>
    cases hname : position? name with
    | none => cases hother : position? other <;> simp only [replaceStep, hname, hother]
    | some i =>
      cases hother : position? other with
      | none => simp only [replaceStep, hname, hother]
      | some k =>
        have hne : i ≠ k := by
          rintro rfl
          rcases apart.2 with h | h
          · cases hname.symm.trans h
          · exact h (hname.trans hother.symm)
        simp only [replaceStep, hname, hother, List.set_comm value second hne]
  | null | bool | number | string => rfl

/-! ### Paths -/

theorem modifyAt_append (f : Json → Json) (j : Json) (path rest : List String) :
    j.modifyAt f (path ++ rest) = j.modifyAt (fun below => below.modifyAt f rest) path := by
  induction path generalizing j with
  | nil => rfl
  | cons name path ih =>
    simp only [List.cons_append, modifyAt]
    split
    · rw [ih]
    · rfl

/-- What matters of a change is what it makes of the value that it finds. -/
theorem modifyAt_congr {f g : Json → Json} {j : Json} (path : List String)
    (same : ∀ below, j.at? path = some below → f below = g below) :
    j.modifyAt f path = j.modifyAt g path := by
  induction path generalizing j with
  | nil => exact same j rfl
  | cons name path ih =>
    cases place : j.step? name with
    | none => simp only [modifyAt, place]
    | some below =>
      have hsame : ∀ value, below.at? path = some value → f value = g value := by
        intro value hvalue
        apply same value
        simp only [at?, place, Option.bind_some, hvalue]
      simp only [modifyAt, place, ih hsame]

/-- Two changes at one path are one change there. -/
theorem modifyAt_modifyAt (f g : Json → Json) (j : Json) (path : List String) :
    (j.modifyAt f path).modifyAt g path = j.modifyAt (fun below => g (f below)) path := by
  induction path generalizing j with
  | nil => rfl
  | cons name path ih =>
    cases place : j.step? name with
    | none => simp only [modifyAt, place]
    | some below =>
      simp only [modifyAt, place, step?_replaceStep_self _ place, replaceStep_replaceStep_self, ih]

/-- Changes at paths that part come to the same in either order. -/
theorem modifyAt_comm (f g : Json → Json) (j : Json) (path : List String) {name other : String}
    (rest others : List String) (apart : Apart name other) :
    (j.modifyAt f (path ++ name :: rest)).modifyAt g (path ++ other :: others) =
      (j.modifyAt g (path ++ other :: others)).modifyAt f (path ++ name :: rest) := by
  rw [modifyAt_append f _ path, modifyAt_append g _ path, modifyAt_append g _ path,
    modifyAt_append f _ path, modifyAt_modifyAt, modifyAt_modifyAt]
  apply modifyAt_congr
  intro below _
  cases hname : below.step? name with
  | none =>
    cases hother : below.step? other with
    | none => simp only [modifyAt, hname, hother]
    | some second =>
      simp only [modifyAt, hname, hother, step?_replaceStep_apart below _ apart.symm]
  | some first =>
    cases hother : below.step? other with
    | none => simp only [modifyAt, hname, hother, step?_replaceStep_apart below _ apart]
    | some second =>
      simp only [modifyAt, hname, hother, step?_replaceStep_apart below _ apart,
        step?_replaceStep_apart below _ apart.symm, replaceStep_comm below _ _ apart]

/-! ### Members -/

theorem withMember_modifyAt (f : Json → Json) (j : Json) {name other : String} (value : Json)
    (rest : List String) (h : name ≠ other) :
    (j.withMember name value).modifyAt f (other :: rest) =
      (j.modifyAt f (other :: rest)).withMember name value := by
  cases j with
  | object members =>
    have place := step?_withMember_of_ne (.object members) value h
    simp only [modifyAt, place]
    cases (Json.object members).step? other with
    | none => rfl
    | some below =>
      simp only [replaceStep, withMember, Table.insert_comm members value _ h]
  | array items =>
    simp only [withMember, modifyAt]
    split
    · simp only [replaceStep]
      split <;> rfl
    · rfl
  | null | bool | number | string => rfl

theorem withMember_withMember (j : Json) (name : String) (old value : Json) :
    (j.withMember name old).withMember name value = j.withMember name value := by
  cases j with
  | object members => simp only [withMember, Table.insert_insert_self]
  | null | bool | number | string | array => rfl

theorem withoutMember_withMember (j : Json) (name : String) (value : Json) :
    (j.withMember name value).withoutMember name = j.withoutMember name := by
  cases j with
  | object members => simp only [withMember, withoutMember, Table.erase_insert_self]
  | null | bool | number | string | array => rfl

theorem withoutMember_of_absent {j : Json} {name : String} (absent : j.at? [name] = none) :
    j.withoutMember name = j := by
  cases j with
  | object members =>
    rw [at?_member] at absent
    simp only [withoutMember, Table.erase_of_absent absent]
  | null | bool | number | string | array => rfl

theorem withoutMembers_of_absent {j : Json} {names : List String}
    (absent : ∀ name ∈ names, j.at? [name] = none) : names.foldl withoutMember j = j := by
  induction names with
  | nil => rfl
  | cons name names ih =>
    obtain ⟨hname, hnames⟩ := List.forall_mem_cons.mp absent
    rw [List.foldl_cons, withoutMember_of_absent hname, ih hnames]

/-! ### Changes that are absorbed -/

/-- A change at a path leaves the whole value as it is. -/
def Absorbs (j : Json) (f : Json → Json) (path : List String) : Prop :=
  j.modifyAt f path = j

/-- A value absorbs a change that finds nothing left to do where the value was changed last. -/
theorem absorbs_modifyAt {f g : Json → Json} {j : Json} (path : List String)
    (again : ∀ below, j.at? path = some below → f (g below) = g below) :
    Absorbs (j.modifyAt g path) f path := by
  rw [Absorbs, modifyAt_modifyAt]
  exact modifyAt_congr path again

theorem Absorbs.apart {f : Json → Json} {j : Json} (path : List String) {name other : String}
    {rest : List String} (absorbs : Absorbs j f (path ++ name :: rest)) (g : Json → Json)
    (others : List String) (apart : Apart name other) :
    Absorbs (j.modifyAt g (path ++ other :: others)) f (path ++ name :: rest) := by
  rw [Absorbs, ← modifyAt_comm f g j path rest others apart, absorbs]

theorem Absorbs.fixed {f : Json → Json} {j below : Json} {path : List String}
    (absorbs : Absorbs j f path) (place : j.at? path = some below) : f below = below := by
  have changed := at?_modifyAt_append f j path []
  rw [absorbs, List.append_nil, place] at changed
  exact (Option.some.inj changed).symm

/-- A list absorbs a change that leaves the item at a position as it is. -/
theorem absorbs_item {f : Json → Json} {items : List Json} {name : String} {i : Nat}
    (position : position? name = some i) (same : ∀ item, items[i]? = some item → f item = item) :
    Absorbs (.array items) f [name] := by
  cases hitem : items[i]? with
  | none => simp only [Absorbs, modifyAt, step?, position, Option.bind_some, hitem]
  | some item =>
    obtain ⟨hi, rfl⟩ := List.getElem?_eq_some_iff.mp hitem
    simp only [Absorbs, modifyAt, step?, replaceStep, position, Option.bind_some, hitem,
      same _ hitem, List.set_getElem_self]

end ClusterProvisioning.Proofs
