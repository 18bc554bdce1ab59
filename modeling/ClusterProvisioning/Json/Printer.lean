import ClusterProvisioning.Json.Basic
import ClusterProvisioning.Number.Shortest

/-!
# Writing JSON

The compact form of a value, and the indented form in which reports are printed.
-/

namespace ClusterProvisioning.Json.Printer

/-- One character of a string. -/
def textChar (c : Char) : List Char :=
  if c = '"' then ['\\', '"']
  else if c = '\\' then ['\\', '\\']
  else if c = '\x08' then ['\\', 'b']
  else if c = '\x0c' then ['\\', 'f']
  else if c = '\n' then ['\\', 'n']
  else if c = '\r' then ['\\', 'r']
  else if c = '\t' then ['\\', 't']
  else if c.toNat < 0x20 then
    ['\\', 'u', '0', '0', Nat.digitChar (c.toNat / 16), Nat.digitChar (c.toNat % 16)]
  else [c]

/-- A string between its quotes. -/
def text (s : String) : List Char :=
  '"' :: s.toList.flatMap textChar ++ ['"']

/-- A number. An infinite one has no notation and is written as null. -/
def number : Number → List Char
  | .whole n => (toString n).toList
  | .real negative magnitude =>
    match magnitude.text? with
    | some digits => if negative then '-' :: digits else digits
    | none => "null".toList

mutual

/-- The compact form of a value. -/
def value : Json → List Char
  | .null => "null".toList
  | .bool true => "true".toList
  | .bool false => "false".toList
  | .number n => number n
  | .string s => text s
  | .array [] => ['[', ']']
  | .array (first :: rest) => '[' :: value first ++ items rest
  | .object [] => ['\x7b', '\x7d']
  | .object ((name, first) :: rest) => '\x7b' :: text name ++ ':' :: value first ++ members rest

/-- The items after the first, and the end of the array. -/
def items : List Json → List Char
  | [] => [']']
  | j :: rest => ',' :: value j ++ items rest

/-- The members after the first, and the end of the object. -/
def members : List (String × Json) → List Char
  | [] => ['\x7d']
  | (name, j) :: rest => ',' :: text name ++ ':' :: value j ++ members rest

end

/-- A line break and the indentation of a level. -/
def lineStart (level : Nat) : List Char :=
  '\n' :: List.replicate (2 * level) ' '

mutual

/-- The indented form of a value that stands at a level. -/
def indented (level : Nat) : Json → List Char
  | .array [] => ['[', ']']
  | .array (first :: rest) =>
    '[' :: lineStart (level + 1) ++ indented (level + 1) first ++ indentedItems level rest
  | .object [] => ['\x7b', '\x7d']
  | .object ((name, first) :: rest) =>
    '\x7b' :: lineStart (level + 1) ++ text name ++ ':' :: ' ' :: indented (level + 1) first
      ++ indentedMembers level rest
  | .null => "null".toList
  | .bool true => "true".toList
  | .bool false => "false".toList
  | .number n => number n
  | .string s => text s

/-- The items after the first, and the end of the array. -/
def indentedItems (level : Nat) : List Json → List Char
  | [] => lineStart level ++ [']']
  | j :: rest =>
    ',' :: lineStart (level + 1) ++ indented (level + 1) j ++ indentedItems level rest

/-- The members after the first, and the end of the object. -/
def indentedMembers (level : Nat) : List (String × Json) → List Char
  | [] => lineStart level ++ ['\x7d']
  | (name, j) :: rest =>
    ',' :: lineStart (level + 1) ++ text name ++ ':' :: ' ' :: indented (level + 1) j
      ++ indentedMembers level rest

end

end Printer

/-- The compact text of a value. -/
def render (j : Json) : String := String.ofList (Printer.value j)

/-- The indented text of a value. -/
def renderIndented (j : Json) : String := String.ofList (Printer.indented 0 j)

end ClusterProvisioning.Json
