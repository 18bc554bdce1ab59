import ClusterProvisioning.Json.Basic
import ClusterProvisioning.Text.Integer

/-!
# Paths into JSON values

A path is a list of names. A name selects a member of an object, and an item of an array when it is
a position written without leading zeros. Nothing lies below any other value.
-/

namespace ClusterProvisioning.Json

/-- The position that a name writes. -/
def position? (name : String) : Option Nat :=
  match name.toList with
  | ['0'] => some 0
  | '0' :: _ => none
  | cs => Text.readDigits cs

/-- The value one step below. -/
def step? (j : Json) (name : String) : Option Json :=
  match j with
  | .object members => Table.get? members name
  | .array items => (position? name).bind fun i => items[i]?
  | _ => none

/-- The value at the end of a path. -/
def at? : Json → List String → Option Json
  | j, [] => some j
  | j, name :: path => (j.step? name).bind fun below => at? below path

/-- The value with the value one step below replaced. -/
def replaceStep (j : Json) (name : String) (value : Json) : Json :=
  match j with
  | .object members => .object (Table.insert members name value)
  | .array items =>
    match position? name with
    | some i => .array (items.set i value)
    | none => j
  | other => other

/-- The value with the value at the end of a path changed, if there is one. -/
def modifyAt (f : Json → Json) : Json → List String → Json
  | j, [] => f j
  | j, name :: path =>
    match j.step? name with
    | some below => j.replaceStep name (modifyAt f below path)
    | none => j

end ClusterProvisioning.Json
