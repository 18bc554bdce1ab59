import ClusterProvisioning.Connection.Der
import ClusterProvisioning.Text.Base64
import ClusterProvisioning.Text.Blank

/-!
# PEM texts

Certificates and keys in base64, each between a line that begins it and one that ends it. What else
stands in the text does not matter.
-/

namespace ClusterProvisioning.Pem

/-- The bytes up to the first place where a mark stands, and those after the mark. -/
def splitAtMark? (mark : List UInt8) : List UInt8 → Option (List UInt8 × List UInt8)
  | [] => none
  | b :: rest =>
    if mark.isPrefixOf (b :: rest) then some ([], (b :: rest).drop mark.length)
    else (splitAtMark? mark rest).map fun (before, after) => (b :: before, after)

def bytesOf (s : String) : List UInt8 := s.toUTF8.toList

def textOf? (bytes : List UInt8) : Option (List Char) :=
  (String.fromUTF8? (ByteArray.mk bytes.toArray)).map String.toList

/-! ### Certificate bundles -/

/-- A block of a bundle as it is written. -/
structure Block where
  opening : List UInt8
  body : List UInt8
  closing : List UInt8

/-- The blocks of a text, at most `fuel` of them. One that is not closed ends the text. -/
def blocks : (fuel : Nat) → List UInt8 → List Block
  | 0, _ => []
  | fuel + 1, bytes =>
    let block? : Option (Block × List UInt8) := do
      let (_, rest) ← splitAtMark? (bytesOf "-----BEGIN ") bytes
      let (opening, rest) ← splitAtMark? (bytesOf "-----") rest
      let (body, rest) ← splitAtMark? (bytesOf "-----END ") rest
      let (closing, rest) ← splitAtMark? (bytesOf "-----") rest
      return (⟨opening, body, closing⟩, rest)
    match block? with
    | some (block, rest) => block :: blocks fuel rest
    | none => []

def isLineSpace (b : UInt8) : Bool := b == 0x20 || b == 0x09 || b == 0x0a || b == 0x0d

/-- The headers of a block, which end at an empty line, and the rest of it. -/
def splitHeaders (body : List UInt8) : List UInt8 × List UInt8 :=
  let body := body.dropWhile isLineSpace
  match splitAtMark? (bytesOf "\n\n") body, splitAtMark? (bytesOf "\r\n\r\n") body with
  | some split, _ | none, some split => split
  | none, none => ([], body)

/-- The lines of a text. A text that ends with a line feed has an empty last one. -/
def lines : List Char → List (List Char)
  | [] => [[]]
  | c :: rest =>
    match lines rest with
    | line :: others => if c = '\n' then [] :: line :: others else (c :: line) :: others
    | [] => [[c]]

/-- Whether every line of the headers gives a name to a value. -/
def areHeaders (cs : List Char) : Bool :=
  cs.isEmpty || (lines cs).all fun line => line.contains ':'

/-- The label of a block and what it holds. The label must stand at both ends. -/
def Block.content? (b : Block) : Option (List Char × List UInt8) := do
  let label ← textOf? b.opening
  if label.isEmpty ∨ b.opening ≠ b.closing then none
  let (headers, body) := splitHeaders b.body
  if !areHeaders (← textOf? headers) then none
  let body ← textOf? body
  return (label, ← Text.Base64.decode? (body.filter (!Text.isBlank ·)))

/-- The certificates of a bundle, none if a block is damaged. -/
def certificates? (bytes : List UInt8) : Option (List (List UInt8)) := do
  let contents ← (blocks bytes.length bytes).mapM Block.content?
  return contents.filterMap fun (label, content) =>
    if label = "CERTIFICATE".toList then some content else none

/-! ### Identities -/

/-- What stands in an identity. -/
inductive Item where
  | certificate (content : List UInt8)
  | key (content : List UInt8)
  /-- Something that no identity has. -/
  | foreign

/-- The item with a label; what has another label does not matter. -/
def item? (label : String) (content : List UInt8) : Option Item :=
  if label = "CERTIFICATE" then some (.certificate content)
  else if ["PRIVATE KEY", "RSA PRIVATE KEY", "EC PRIVATE KEY"].contains label then
    some (.key content)
  else if label = "X509 CRL" then some .foreign
  else none

/-- Whether the character may stand at the end of a line of an item. -/
def isLineEnd (c : Char) : Bool := c == ' ' || c == '\r'

/-- The label of the line that begins an item. -/
def openingLabel? (line : List Char) : Option (List Char) :=
  let line := (Text.dropEndWhile isLineEnd line).drop "-----BEGIN ".length
  let label := Text.dropEndWhile (· == '-') line
  if line.length = label.length + 5 then some label else none

/-- An item that is being read: its label, and the characters of its content. -/
abbrev OpenItem := Option (List Char × List Char)

/-- The items that some lines write. Every item that begins must end. -/
def itemsOf? : OpenItem → List (List Char) → Option (List Item)
  | none, [] => some []
  | some _, [] => none
  | pending, line :: rest =>
    if "-----BEGIN ".toList.isPrefixOf line then do
      let content := match pending with
        | some (_, content) => content
        | none => []
      itemsOf? (some (← openingLabel? line, content)) rest
    else
      match pending with
      | none => itemsOf? none rest
      | some (label, content) =>
        if ("-----END ".toList ++ label ++ "-----".toList).isPrefixOf line then do
          let bytes ← Text.Base64.decode? content
          let items ← itemsOf? none rest
          return (item? (String.ofList label) bytes).toList ++ items
        else itemsOf? (some (label, content ++ Text.dropEndWhile isLineEnd line)) rest

/-- Whether some bytes are an identity: a private key and the certificates for it. -/
def isIdentity (bytes : List UInt8) : Bool :=
  match (textOf? bytes).bind fun cs => itemsOf? none (lines cs) with
  | some items =>
    let keys := items.filterMap fun
      | .key content => some content
      | _ => none
    let isForeign : Item → Bool
      | .foreign => true
      | _ => false
    let isCertificate : Item → Bool
      | .certificate _ => true
      | _ => false
    items.any isCertificate && !items.any isForeign && keys.any Der.isPrivateKey
  | none => false

end ClusterProvisioning.Pem
