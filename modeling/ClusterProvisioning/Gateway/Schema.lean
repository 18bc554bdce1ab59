import ClusterProvisioning.Document.Decode
import ClusterProvisioning.Text.Timestamp

/-!
# Schemas of API objects

The typed parts of API objects. Reading a document by a schema keeps the fields that the schema
names, drops those that are null, and fails on a value of another type.
-/

namespace ClusterProvisioning

/-- The type of a value in an API object. -/
inductive Schema where
  | any
  | text
  /-- This text and no other. -/
  | exactly (value : String)
  | flag
  /-- A point in time, kept to the second. -/
  | time
  /-- A whole number of so many bits with a sign. -/
  | integer (bits : Nat)
  /-- A port: a whole number of 32 bits with a sign, or a name. -/
  | port
  | list (item : Schema)
  | map (value : Schema)
  /-- An object with these fields; a field with a default is always there. -/
  | object (fields : List (String × Option Json × Schema))

namespace Schema

/-- Whether null stands for the absence of a value of the type. -/
def allowsNull : Schema → Bool
  | .exactly _ => false
  | _ => true

/-- The values given for a field. -/
def given (name : String) (entries : List (String × Document)) : List Document :=
  (entries.filter fun entry => entry.1 = name).map (·.2)

/-- A value that may be null, by the reader for its type. -/
def readPresent (nullable : Bool) (read : Document → Option Json) : Document → Option (Option Json)
  | .null => if nullable then some none else none
  | d => (read d).map some

/-- A whole number of so many bits with a sign. -/
def integer? (bits : Nat) : Document → Option Json
  | .number (.whole n) =>
    if -(Nat.pow 2 (bits - 1)) ≤ n ∧ n < Nat.pow 2 (bits - 1) then some (.number (.whole n))
    else none
  | _ => none

mutual

/-- Reads a value of the type. -/
def read? : Schema → Document → Option Json
  | .any, d => d.toJson?
  | .text, .string s => some (.string s)
  | .exactly value, .string s => if s = value then some (.string s) else none
  | .flag, .bool b => some (.bool b)
  | .time, .string s => (Text.universalTime? s).map .string
  | .integer bits, d => integer? bits d
  | .port, .string s => some (.string s)
  | .port, d => integer? 32 d
  | .list item, .array items => (items.mapM item.read?).map .array
  | .map value, .map entries =>
    (entries.mapM (Document.namedValue? value.read?)).map Json.ofMembers
  | .object fields, .map entries => do
    let named ← entries.mapM (Document.namedValue? some)
    return .ofMembers (← readFields fields named)
  | _, _ => none

/-- Reads the fields of an object; of a field given twice the last value stays. -/
def readFields : List (String × Option Json × Schema) → List (String × Document) →
    Option (List (String × Json))
  | [], _ => some []
  | (name, default, schema) :: rest, entries => do
    let values ← (given name entries).mapM (readPresent schema.allowsNull schema.read?)
    let value := values.getLast?.join.or default
    let others ← readFields rest entries
    return match value with
      | some value => (name, value) :: others
      | none => others

end

/-! ### Objects -/

/-- The fields of an object, with their types. -/
abbrev FieldTypes := List (String × Schema)

/-- An object whose fields have no defaults. -/
def ofFields (fields : FieldTypes) : Schema :=
  .object (fields.map fun field => (field.1, none, field.2))

/-- Fields of one type. -/
def each (type : Schema) (names : List String) : FieldTypes :=
  names.map fun name => (name, type)

def texts : List String → FieldTypes := each .text
def flags : List String → FieldTypes := each .flag
def times : List String → FieldTypes := each .time
def int32s : List String → FieldTypes := each (.integer 32)
def int64s : List String → FieldTypes := each (.integer 64)
def textLists : List String → FieldTypes := each (.list .text)
def textMaps : List String → FieldTypes := each (.map .text)

/-- Tables of amounts by resource. -/
def amounts : List String → FieldTypes := textMaps

/-! ### Metadata -/

def managedFields : Schema :=
  ofFields (texts ["apiVersion", "fieldsType", "manager", "operation", "subresource"]
    ++ times ["time"] ++ [("fieldsV1", .any)])

/-- A field that is an empty text if it is not given. -/
def textOrEmpty (name : String) : String × Option Json × Schema := (name, some (.string ""), .text)

def ownerReference : Schema :=
  .object (["apiVersion", "kind", "name", "uid"].map textOrEmpty
    ++ [("blockOwnerDeletion", none, .flag), ("controller", none, .flag)])

/-- The metadata of an object. -/
def metadata : Schema :=
  ofFields (texts ["generateName", "name", "namespace", "resourceVersion", "selfLink", "uid"]
    ++ times ["creationTimestamp", "deletionTimestamp"]
    ++ int64s ["deletionGracePeriodSeconds", "generation"] ++ textMaps ["annotations", "labels"]
    ++ textLists ["finalizers"]
    ++ [("managedFields", .list managedFields), ("ownerReferences", .list ownerReference)])

/-- The metadata of a list. -/
def listMetadata : Schema :=
  ofFields (texts ["continue", "resourceVersion", "selfLink"] ++ int64s ["remainingItemCount"])

end Schema

end ClusterProvisioning
