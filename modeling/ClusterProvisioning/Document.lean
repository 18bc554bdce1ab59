import ClusterProvisioning.Json.Basic

/-!
# Documents

What a JSON or a YAML text says before anyone asks for a particular type: entries stay in the order
of the text, repeated names included, and a YAML scalar keeps its text, because only the reader of a
field knows whether `8000` is a number or a name.
-/

namespace ClusterProvisioning

/-- A tag that a YAML text gives a value. -/
inductive Document.Tag where
  | null
  | bool
  | int
  | float
  /-- A tag of the text's own, with its name unless that is no text. -/
  | own (name : Option String)
  | other
  deriving DecidableEq, Repr

/-- A document read from a text. -/
inductive Document where
  | null
  | bool (value : Bool)
  | number (value : Json.Number)
  | string (text : String)
  /-- An unquoted scalar. -/
  | plain (text : String)
  /-- A scalar written as a block of lines that are kept as they are. -/
  | literal (text : String)
  /-- A list as JSON writes it, which may also stand for a structure. -/
  | array (items : List Document)
  /-- A list as YAML writes it. -/
  | sequence (items : List Document)
  | map (entries : List (Document × Document))
  | tagged (tag : Document.Tag) (content : Document)
  /-- A value that cannot be read, which harms no one who ignores it. -/
  | unreadable
  deriving Repr

namespace Document

instance : Inhabited Document := ⟨.null⟩

mutual

/-- The document that a JSON value is. -/
def ofJson : Json → Document
  | .null => .null
  | .bool b => .bool b
  | .number n => .number n
  | .string s => .string s
  | .array items => .array (ofItems items)
  | .object members => .map (ofMembers members)

/-- The documents of a list of values. -/
def ofItems : List Json → List Document
  | [] => []
  | j :: rest => ofJson j :: ofItems rest

/-- The entries of a list of members. -/
def ofMembers : List (String × Json) → List (Document × Document)
  | [] => []
  | (name, j) :: rest => (.string name, ofJson j) :: ofMembers rest

end

mutual

/-- The JSON value of a document. Only what JSON writes has one. -/
def toJson? : Document → Option Json
  | .null => some .null
  | .bool b => some (.bool b)
  | .number n => some (.number n)
  | .string s => some (.string s)
  | .array items => (toItems? items).map .array
  | .map entries => (toMembers? entries).map Json.ofMembers
  | .plain _ | .literal _ | .sequence _ | .tagged .. | .unreadable => none

/-- The values of a list of documents. -/
def toItems? : List Document → Option (List Json)
  | [] => some []
  | d :: rest => do return (← toJson? d) :: (← toItems? rest)

/-- The members of a list of entries. -/
def toMembers? : List (Document × Document) → Option (List (String × Json))
  | [] => some []
  | (.string name, d) :: rest => do return (name, ← toJson? d) :: (← toMembers? rest)
  | _ :: _ => none

end

end Document

end ClusterProvisioning
