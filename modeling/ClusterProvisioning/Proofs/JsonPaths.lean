import ClusterProvisioning.Json.Path

/-!
# What stands at a path after a change

Changing the value at one path changes what stands there and below (`at?_modifyAt_append`), and
nothing at a path that turns off on the way (`at?_modifyAt_apart`). Members of an object come and go
without a trace at paths through other members.
-/

namespace ClusterProvisioning.Proofs
open Json

/-- Two names select different places of every value that has both. -/
def Apart (name other : String) : Prop :=
  name ≠ other ∧ (position? name = none ∨ position? name ≠ position? other)

instance (name other : String) : Decidable (Apart name other) :=
  inferInstanceAs (Decidable (_ ∧ _))

/-! ### Single steps -/

theorem step?_replaceStep_self {j below : Json} {name : String} (value : Json)
    (place : j.step? name = some below) : (j.replaceStep name value).step? name = some value := by
  cases j with
  | object members => exact Table.get?_insert_self members name value
  | array items =>
    obtain ⟨i, hi, hitem⟩ := Option.bind_eq_some_iff.mp place
    have hlength : i < items.length := (List.getElem?_eq_some_iff.mp hitem).1
    simp only [replaceStep, step?, hi, Option.bind_some, List.getElem?_set_self hlength]
  | null => cases place
  | bool b => cases place
  | number n => cases place
  | string s => cases place

theorem step?_replaceStep_apart (j : Json) {name other : String} (value : Json)
    (apart : Apart name other) : (j.replaceStep name value).step? other = j.step? other := by
  cases j with
  | object members => exact Table.get?_insert_of_ne members value apart.1
  | array items =>
    cases hname : position? name with
    | none => simp only [replaceStep, hname]
    | some i =>
      simp only [replaceStep, step?, hname]
      cases hother : position? other with
      | none => rfl
      | some k =>
        have hne : i ≠ k := by
          rintro rfl
          rcases apart.2 with h | h
          · cases hname.symm.trans h
          · exact h (hname.trans hother.symm)
        exact List.getElem?_set_ne hne
  | null => rfl
  | bool b => rfl
  | number n => rfl
  | string s => rfl

theorem step?_withMember_of_ne (j : Json) {name other : String} (value : Json)
    (h : name ≠ other) : (j.withMember name value).step? other = j.step? other := by
  cases j with
  | object members => exact Table.get?_insert_of_ne members value h
  | null | bool | number | string | array => rfl

theorem step?_withoutMember_of_ne (j : Json) {name other : String} (h : name ≠ other) :
    (j.withoutMember name).step? other = j.step? other := by
  cases j with
  | object members => exact Table.get?_erase_of_ne members h
  | null | bool | number | string | array => rfl

/-! ### Paths -/

theorem at?_member (members : Table Json) (name : String) :
    (Json.object members).at? [name] = Table.get? members name := by
  simp only [Json.at?, Json.step?, Option.bind_fun_some]

theorem member?_eq_at? (j : Json) {name : String} (plain : Json.position? name = none) :
    j.member? name = j.at? [name] := by
  cases j with
  | array items => simp only [Json.member?, Json.at?, Json.step?, plain, Option.bind_none]
  | object members => exact (at?_member members name).symm
  | null | bool | number | string => rfl

theorem at?_append (j : Json) (path rest : List String) :
    j.at? (path ++ rest) = (j.at? path).bind fun below => below.at? rest := by
  induction path generalizing j with
  | nil => rfl
  | cons name path ih =>
    simp only [List.cons_append, at?, Option.bind_assoc]
    congr 1
    funext below
    exact ih below

/-- What stands at or below the end of a path after the value there is changed. -/
theorem at?_modifyAt_append (f : Json → Json) (j : Json) (path rest : List String) :
    (j.modifyAt f path).at? (path ++ rest) = (j.at? path).bind fun below => (f below).at? rest := by
  induction path generalizing j with
  | nil => rfl
  | cons name path ih =>
    cases place : j.step? name with
    | none => simp only [modifyAt, place, List.cons_append, at?, Option.bind_none]
    | some below =>
      simp only [modifyAt, place, List.cons_append, at?, Option.bind_some,
        step?_replaceStep_self _ place]
      exact ih below

/-- A change leaves what stands at a path that turns off before its place. -/
theorem at?_modifyAt_apart (f : Json → Json) (j : Json) (path : List String) {name other : String}
    (rest others : List String) (apart : Apart name other) :
    (j.modifyAt f (path ++ name :: rest)).at? (path ++ other :: others) =
      j.at? (path ++ other :: others) := by
  induction path generalizing j with
  | nil =>
    simp only [List.nil_append, modifyAt]
    split
    · simp only [at?, step?_replaceStep_apart j _ apart]
    · rfl
  | cons step path ih =>
    cases place : j.step? step with
    | none => simp only [List.cons_append, modifyAt, place]
    | some below =>
      simp only [List.cons_append, modifyAt, place, at?, Option.bind_some,
        step?_replaceStep_self _ place]
      exact ih below

/-- A change that leaves what stands below its place at some path leaves the whole value there. -/
theorem at?_modifyAt_through (f : Json → Json) (j : Json) (path : List String) {rest : List String}
    (through : ∀ below : Json, (f below).at? rest = below.at? rest) :
    (j.modifyAt f path).at? (path ++ rest) = j.at? (path ++ rest) := by
  rw [at?_modifyAt_append, at?_append]
  simp only [through]

theorem at?_withMember_of_ne (j : Json) {name other : String} (value : Json)
    (path : List String) (h : name ≠ other) :
    (j.withMember name value).at? (other :: path) = j.at? (other :: path) := by
  simp only [at?, step?_withMember_of_ne j value h]

theorem at?_withoutMember_of_ne (j : Json) {name other : String} (path : List String)
    (h : name ≠ other) : (j.withoutMember name).at? (other :: path) = j.at? (other :: path) := by
  simp only [at?, step?_withoutMember_of_ne j h]

end ClusterProvisioning.Proofs
