/-!
# Certificates and keys in DER

Certificates and private keys are nested elements, each a tag, a length and a content. Here stands
how much of that form is checked before a certificate or a key is put to use.
-/

namespace ClusterProvisioning.Der

/-- An element: its tag and its content. -/
structure Element where
  tag : UInt8
  content : List UInt8
  deriving DecidableEq, Repr

def integerTag : UInt8 := 0x02
def bitStringTag : UInt8 := 0x03
def sequenceTag : UInt8 := 0x30
/-- The tag around the version of a certificate. -/
def versionTag : UInt8 := 0xa0
/-- The tag around the extensions of a certificate. -/
def extensionsTag : UInt8 := 0xa3

/-- A length of at most two bytes in its shortest form, and what follows. -/
def length? : List UInt8 → Option (Nat × List UInt8)
  | 0x81 :: a :: rest => if 0x80 ≤ a then some (a.toNat, rest) else none
  | 0x82 :: a :: b :: rest => if a ≠ 0 then some (256 * a.toNat + b.toNat, rest) else none
  | a :: rest => if a < 0x80 then some (a.toNat, rest) else none
  | [] => none

/-- The first element, and what follows it. -/
def element? : List UInt8 → Option (Element × List UInt8)
  | tag :: rest => do
    let (n, rest) ← length? rest
    if n ≤ rest.length then some (⟨tag, rest.take n⟩, rest.drop n) else none
  | [] => none

/-- All elements, at most `fuel` of them. -/
def elements? : (fuel : Nat) → List UInt8 → Option (List Element)
  | _, [] => some []
  | 0, _ :: _ => none
  | fuel + 1, bytes => do
    let (e, rest) ← element? bytes
    return e :: (← elements? fuel rest)

/-- The elements inside a sequence that makes up all of some bytes. -/
def wholeSequence? (bytes : List UInt8) : Option (List Element) := do
  let (e, rest) ← element? bytes
  if e.tag = sequenceTag ∧ rest = [] then elements? e.content.length e.content else none

/-- Whether elements are what a certificate of the first or the third version has between its
version and its extensions. -/
def isCertificateBody (algorithm : Element) : List Element → Bool
  | serial :: signature :: issuer :: validity :: subject :: key :: extensions =>
    serial.tag == integerTag && signature == algorithm && issuer.tag == sequenceTag
      && validity.tag == sequenceTag && subject.tag == sequenceTag && key.tag == sequenceTag
      && match extensions with
        | [] => true
        | [e] => e.tag == extensionsTag
        | _ => false
  | _ => false

/-- Whether some bytes have the form of a certificate. -/
def isCertificate (bytes : List UInt8) : Bool :=
  match wholeSequence? bytes with
  | some [body, algorithm, signature] =>
    body.tag == sequenceTag && algorithm.tag == sequenceTag && signature.tag == bitStringTag
      && match elements? body.content.length body.content with
        | some (first :: rest) =>
          if first.tag = versionTag then
            first.content == [integerTag, 1, 2] && isCertificateBody algorithm rest
          else isCertificateBody algorithm (first :: rest)
        | _ => false
  | _ => false

/-- Whether some bytes have the form of a private key: a version and what it demands. -/
def isPrivateKey (bytes : List UInt8) : Bool :=
  match wholeSequence? bytes with
  | some (version :: _ :: _) => version.tag == integerTag
  | _ => false

end ClusterProvisioning.Der
