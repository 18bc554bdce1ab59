import ClusterProvisioning.Document
import ClusterProvisioning.Text.Integer

/-!
# Reading values from documents

Readers for the types of fields. An unquoted scalar is read as whatever type the field has, and the
tag of a value tells only variants and absent values. A structure is read from a map by the names of
its fields, or from a JSON list by their order.
-/

namespace ClusterProvisioning.Document

variable {α : Type}

/-! ### Scalars -/

/-- A text: any scalar, whatever it looks like. -/
def string? : Document → Option String
  | .string s | .plain s | .literal s => some s
  | .tagged _ d => string? d
  | _ => none

/-- The truth value that an unquoted scalar writes. -/
def truthWord? (s : String) : Option Bool :=
  if s == "true" || s == "True" || s == "TRUE" then some true
  else if s == "false" || s == "False" || s == "FALSE" then some false
  else none

/-- A truth value. A block of lines is one only under its tag. -/
def bool? : Document → Option Bool
  | .bool b => some b
  | .plain s | .tagged .bool (.literal s) => truthWord? s
  | .tagged _ d => bool? d
  | _ => none

/-- The natural number that an unquoted scalar writes in base 16, 8, 2 or 10, after an optional
plus sign. A decimal number has no leading zeros. -/
def plainNat? (s : String) : Option Nat :=
  let cs := match s.toList with
    | '+' :: rest => rest
    | rest => rest
  match cs with
  | '0' :: 'x' :: digits => Text.readBase 16 digits
  | '0' :: 'o' :: digits => Text.readBase 8 digits
  | '0' :: 'b' :: digits => Text.readBase 2 digits
  | ['0'] => some 0
  | '0' :: _ => none
  | digits => Text.readDigits digits

/-- A natural number. A block of lines is one only under its tag. -/
def nat? : Document → Option Nat
  | .number (.whole n) => if 0 ≤ n then some n.toNat else none
  | .plain s | .tagged .int (.literal s) => plainNat? s
  | .tagged _ d => nat? d
  | _ => none

/-- A natural number below a limit. -/
def natBelow? (limit : Nat) (d : Document) : Option Nat :=
  d.nat?.filter (· < limit)

def uint16? (d : Document) : Option UInt16 := (d.natBelow? UInt16.size).map UInt16.ofNat
def uint32? (d : Document) : Option UInt32 := (d.natBelow? UInt32.size).map UInt32.ofNat
def uint64? (d : Document) : Option UInt64 := (d.natBelow? UInt64.size).map UInt64.ofNat

/-! ### Absent values -/

/-- Whether an unquoted scalar is a word for the absence of a value. -/
def isNullWord (s : String) : Bool :=
  s == "null" || s == "Null" || s == "NULL" || s == "~"

/-- Whether a document says that there is no value. -/
def isNothing : Document → Bool
  | .null => true
  | .plain s | .tagged .null (.plain s) => s == "" || isNullWord s
  | _ => false

/-- A value that may be absent. An unquoted scalar under the tag of absence must be a word for it,
and a value under any other tag is there. -/
def nullable? (read : Document → Option α) : Document → Option (Option α)
  | .null => some none
  | .plain s => if s == "" || isNullWord s then some none else (read (.plain s)).map some
  | .tagged .null (.plain s) => if isNullWord s then some none else none
  | d => (read d).map some

/-! ### Lists and tables -/

/-- A list; an empty scalar is an empty list. -/
def list? (read : Document → Option α) : Document → Option (List α)
  | .array items | .sequence items => items.mapM read
  | .plain "" => some []
  | .tagged _ d => list? read d
  | _ => none

/-- An entry of a map with its name and its value read. -/
def namedValue? (read : Document → Option α) (entry : Document × Document) :
    Option (String × α) := do
  return (← string? entry.1, ← read entry.2)

/-- A table of texts; an empty scalar is an empty table. -/
def textTable? : Document → Option (Table String)
  | .map entries => (entries.mapM (namedValue? string?)).map Table.ofEntries
  | .plain "" => some []
  | .tagged _ d => textTable? d
  | _ => none

/-! ### Variants -/

/-- The name of a variant without content: a text, or a tag on nothing. -/
def word? : Document → Option String
  | .tagged (.own (some name)) d => if d.isNothing then some name else none
  | d => d.string?

/-- The name of a variant without content. It may also name an absent content, as JSON writes
it. -/
def variant? : Document → Option String
  | .map [(.string name, .null)] => some name
  | d => d.word?

/-! ### Structures -/

/-- The fields of a structure that a document gives. -/
abbrev Fields := List (String × Document)

/-- The entries of a map whose names are among those of the fields. -/
def knownEntries (names : List String) (entries : List (Document × Document)) :
    Option Fields := do
  let named ← entries.mapM (namedValue? some)
  return named.filter fun entry => names.contains entry.1

/-- The fields of a structure, from a map or in order from a JSON list. No field may be given twice;
a map may have entries that are no fields, a list has no more items than there are fields. -/
def fields? (names : List String) : Document → Option Fields
  | .map entries => do
    let fields ← knownEntries names entries
    if (fields.map (·.1)).Nodup then some fields else none
  | .array items => if items.length ≤ names.length then some (names.zip items) else none
  | .plain "" => some []
  | .tagged _ d => fields? names d
  | _ => none

namespace Fields

/-- A field that must be given. -/
def required (fields : Fields) (name : String) (read : Document → Option α) : Option α :=
  (fields.lookup name).bind read

/-- A field with a default. -/
def withDefault (fields : Fields) (name : String) (read : Document → Option α) (default : α) :
    Option α :=
  match fields.lookup name with
  | some d => read d
  | none => some default

/-- A field that may be missing or absent. -/
def optional (fields : Fields) (name : String) (read : Document → Option α) :
    Option (Option α) :=
  fields.withDefault name (nullable? read) none

end Fields

end ClusterProvisioning.Document
