import ClusterProvisioning.Document
import ClusterProvisioning.Text.Integer
import ClusterProvisioning.Yaml.Place

/-!
# YAML tags

A tag is written in full between angle brackets, or as a handle and a suffix, where a document says
which prefix its handles stand for. Percent signs write bytes of UTF-8.
-/

namespace ClusterProvisioning.Yaml

/-- Whether names of anchors, handles and directives take the character. -/
def isNameChar (c : Char) : Bool := c.isAlphanum || c == '_' || c == '-'

/-- Whether a tag takes the character; in brackets it takes some more. -/
def isTagChar (inBrackets : Bool) (c : Char) : Bool :=
  isNameChar c || ";/?:@&=+$.%!~*'()".toList.contains c || inBrackets && ",[]".toList.contains c

/-- How many bytes follow the first byte of a character. -/
def trailingBytes? (lead : Nat) : Option Nat :=
  if lead < 0x80 then some 0
  else if lead / 0x20 = 6 then some 1
  else if lead / 0x10 = 14 then some 2
  else if lead / 0x8 = 30 then some 3
  else none

/-- The bytes that a tag writes, and what follows it. The first `trailing` of them must be escaped
bytes that continue a character. -/
def tagBytes (inBrackets : Bool) :
    (trailing : Nat) → List Char → Option (List UInt8 × List Char)
  | 0, [] => some ([], [])
  | trailing, '%' :: a :: b :: rest => do
    let byte ← Text.readBase 16 [a, b]
    let trailing ← match trailing with
      | 0 => trailingBytes? byte
      | n + 1 => if byte / 0x40 = 2 then some n else none
    let (bytes, rest) ← tagBytes inBrackets trailing rest
    return (.ofNat byte :: bytes, rest)
  | 0, c :: rest =>
    if c == '%' then none
    else if isTagChar inBrackets c then do
      let (bytes, rest) ← tagBytes inBrackets 0 rest
      return (.ofNat c.toNat :: bytes, rest)
    else some ([], c :: rest)
  | _ + 1, _ => none

/-- The bytes of a text up to a zero byte, where a tag ends. -/
def upToZero (bytes : List UInt8) : List UInt8 := bytes.takeWhile (· != 0)

/-- The bytes of a tag that must be written, and what follows it. -/
def filledTag? (inBrackets : Bool) (cs : List Char) : Option (List UInt8 × List Char) := do
  let (bytes, rest) ← tagBytes inBrackets 0 cs
  if bytes.isEmpty then none else some (upToZero bytes, rest)

/-- A tag as it is written: a handle, none if it is written in full, and the bytes after it. -/
structure TagText where
  handle : Option String
  suffix : List UInt8
  deriving DecidableEq, Repr

/-- Reads a tag after its exclamation mark. -/
def TagText.read? : List Char → Option (TagText × List Char)
  | '<' :: rest => do
    match ← filledTag? true rest with
    | (bytes, '>' :: rest) => some (⟨none, bytes⟩, rest)
    | _ => none
  | cs =>
    let name := cs.takeWhile isNameChar
    match cs.drop name.length with
    | '!' :: rest => do
      let (suffix, rest) ← filledTag? false rest
      return (⟨some (String.ofList ('!' :: name ++ ['!'])), suffix⟩, rest)
    | rest => do
      let (bytes, rest) ← tagBytes false 0 rest
      let suffix := upToZero (name.map (fun c => .ofNat c.toNat) ++ bytes)
      return (if suffix.isEmpty then ⟨none, "!".toUTF8.toList⟩ else ⟨some "!", suffix⟩, rest)

/-- The prefixes that handles stand for, those of the document first. -/
abbrev TagPrefixes := List (String × List UInt8)

/-- The prefixes of a document that says nothing else. -/
def standardPrefixes : TagPrefixes :=
  [("!", "!".toUTF8.toList), ("!!", "tag:yaml.org,2002:".toUTF8.toList)]

/-- The bytes of the tag that is meant. -/
def TagText.bytes? (t : TagText) (prefixes : TagPrefixes) : Option (List UInt8) :=
  match t.handle with
  | none => some t.suffix
  | some handle => (prefixes.lookup handle).map (· ++ t.suffix)

/-- The tag with these bytes. A tag of the text's own begins with an exclamation mark, which is no
part of its name. -/
def tagOfBytes (bytes : List UInt8) : Document.Tag :=
  match bytes, String.fromUTF8? (ByteArray.mk bytes.toArray) with
  | 0x21 :: name, _ => .own (String.fromUTF8? (ByteArray.mk name.toArray))
  | _, some "tag:yaml.org,2002:null" => .null
  | _, some "tag:yaml.org,2002:bool" => .bool
  | _, some "tag:yaml.org,2002:int" => .int
  | _, some "tag:yaml.org,2002:float" => .float
  | _, _ => .other

end ClusterProvisioning.Yaml
