import ClusterProvisioning.Number.Binary64
import ClusterProvisioning.Table

/-!
# JSON values

Manifests, live objects and reports are JSON values. Members of an object form a table, so equal
objects are equal values whatever order their text had.
-/

namespace ClusterProvisioning

/-- A number of a JSON value: a whole number in the range of 64-bit integers, or the sign and the
absolute value of a floating-point number. -/
inductive Json.Number where
  | whole (value : Int)
  | real (negative : Bool) (magnitude : Binary64)
  deriving DecidableEq, Repr

/-- A JSON value. -/
inductive Json where
  | null
  | bool (value : Bool)
  | number (value : Json.Number)
  | string (text : String)
  | array (items : List Json)
  | object (members : List (String × Json))
  deriving Repr

namespace Json

instance : Inhabited Json := ⟨.null⟩

/-- The least and the greatest whole number kept exactly: the ranges of signed and of unsigned
64-bit integers together. -/
def Number.holds (n : Int) : Bool :=
  decide (-(Nat.pow 2 63) ≤ n) && decide (n < UInt64.size)

/-- A whole number as a value. -/
def ofNat (n : Nat) : Json := .number (.whole n)

/-- The object of a list of members; of two members with one name the later stays. -/
def ofMembers (members : List (String × Json)) : Json :=
  .object (Table.ofEntries members)

/-- An object whose members are texts. -/
def ofTexts (t : Table String) : Json :=
  .object (t.map fun entry => (entry.1, .string entry.2))

/-- A list of texts. -/
def ofTextList (texts : List String) : Json :=
  .array (texts.map .string)

/-- A text, or null when there is none. -/
def ofText? : Option String → Json
  | some text => .string text
  | none => .null

/-- The word for the sort of a value. -/
def sort : Json → String
  | .null => "null"
  | .bool _ => "boolean"
  | .number _ => "number"
  | .string _ => "string"
  | .array _ => "array"
  | .object _ => "object"

def isNull : Json → Bool
  | .null => true
  | _ => false

def isObject : Json → Bool
  | .object _ => true
  | _ => false

/-- The text of a string value. -/
def text? : Json → Option String
  | .string s => some s
  | _ => none

/-- The value of a number that is a natural number. -/
def nat? : Json → Option Nat
  | .number (.whole n) => if 0 ≤ n then some n.toNat else none
  | _ => none

/-- The members of an object. -/
def members? : Json → Option (Table Json)
  | .object members => some members
  | _ => none

/-- The items of an array. -/
def items? : Json → Option (List Json)
  | .array items => some items
  | _ => none

/-- The member of an object with the given name. -/
def member? : Json → String → Option Json
  | .object members, name => Table.get? members name
  | _, _ => none

/-- An object with a member set; any other value is kept. -/
def withMember (j : Json) (name : String) (value : Json) : Json :=
  match j with
  | .object members => .object (Table.insert members name value)
  | other => other

/-- An object without a member; any other value is kept. -/
def withoutMember (j : Json) (name : String) : Json :=
  match j with
  | .object members => .object (Table.erase members name)
  | other => other

end Json

end ClusterProvisioning
