import ClusterProvisioning.Document
import ClusterProvisioning.Text.Integer

/-!
# Reading JSON

A strict reader of JSON texts. It keeps the order of members and repeated names, and refuses
anything after the value. Values nested deeper than the limit, numbers too large for binary floating
point and strings with half a surrogate pair are well formed but cannot be read.
-/

namespace ClusterProvisioning.Json.Reader

/-- How many arrays and objects that can be read stand inside one another. -/
def depthLimit : Nat := 127

def isSpace (c : Char) : Bool :=
  c == ' ' || c == '\t' || c == '\n' || c == '\r'

def skipSpace (cs : List Char) : List Char := cs.dropWhile isSpace

/-! ### Texts -/

/-- A piece of a string: a character, or one UTF-16 unit written as an escape. -/
inductive Piece where
  | char (c : Char)
  | unit (value : Nat)

/-- The character that a one-letter escape stands for. -/
def escaped? : Char → Option Char
  | '"' => some '"'
  | '\\' => some '\\'
  | '/' => some '/'
  | 'b' => some '\x08'
  | 'f' => some '\x0c'
  | 'n' => some '\n'
  | 'r' => some '\r'
  | 't' => some '\t'
  | _ => none

/-- The pieces up to the closing quote, and what follows it. -/
def pieces : List Char → Option (List Piece × List Char)
  | [] => none
  | '"' :: rest => some ([], rest)
  | '\\' :: 'u' :: a :: b :: c :: d :: rest => do
    let value ← Text.readBase 16 [a, b, c, d]
    let (tail, rest) ← pieces rest
    return (.unit value :: tail, rest)
  | '\\' :: letter :: rest => do
    let c ← escaped? letter
    let (tail, rest) ← pieces rest
    return (.char c :: tail, rest)
  | c :: rest =>
    if c.toNat < 0x20 then none
    else do
      let (tail, rest) ← pieces rest
      return (.char c :: tail, rest)

/-- The characters that pieces write: two units of a surrogate pair make one character, and a unit
of a pair alone makes none. -/
def joinPieces : List Piece → Option (List Char)
  | [] => some []
  | .char c :: rest => (joinPieces rest).map (c :: ·)
  | .unit high :: .unit low :: rest =>
    if 0xd800 ≤ high ∧ high < 0xdc00 then
      if 0xdc00 ≤ low ∧ low < 0xe000 then
        (joinPieces rest).map (Char.ofNat (0x10000 + (high - 0xd800) * 0x400 + (low - 0xdc00)) :: ·)
      else none
    else if 0xdc00 ≤ high ∧ high < 0xe000 then none
    else (joinPieces (.unit low :: rest)).map (Char.ofNat high :: ·)
  | .unit value :: rest =>
    if 0xd800 ≤ value ∧ value < 0xe000 then none
    else (joinPieces rest).map (Char.ofNat value :: ·)

/-- A string after its opening quote, and what follows it. -/
def text (cs : List Char) : Option (Document × List Char) := do
  let (parts, rest) ← pieces cs
  return (match joinPieces parts with
    | some text => .string (String.ofList text)
    | none => .unreadable, rest)

/-! ### Numbers -/

/-- The digits after a decimal point, if one follows. -/
def fraction : List Char → Option (List Char × List Char)
  | '.' :: rest =>
    let digits := rest.takeWhile Char.isDigit
    if digits.isEmpty then none else some (digits, rest.dropWhile Char.isDigit)
  | rest => some ([], rest)

/-- The sign and the digits of an exponent. -/
def exponentDigits (sign : List Char) (rest : List Char) :
    Option (Option (List Char × List Char) × List Char) :=
  let digits := rest.takeWhile Char.isDigit
  if digits.isEmpty then none else some (some (sign, digits), rest.dropWhile Char.isDigit)

/-- The exponent, if one follows. -/
def exponent : List Char → Option (Option (List Char × List Char) × List Char)
  | 'e' :: '-' :: rest | 'E' :: '-' :: rest => exponentDigits ['-'] rest
  | 'e' :: '+' :: rest | 'E' :: '+' :: rest => exponentDigits [] rest
  | 'e' :: rest | 'E' :: rest => exponentDigits [] rest
  | rest => some (none, rest)

/-- The significand grown by the leading digits with which it still takes 64 bits, and the digits
after them. -/
def grow (significand : Nat) : List Char → Nat × List Char
  | [] => (significand, [])
  | c :: cs =>
    let next := 10 * significand + Text.digitValue c
    if next < UInt64.size then grow next cs else (significand, c :: cs)

/-- A power of ten in binary floating point. -/
def tenTo (n : Nat) : Binary64 := .ofNat (Nat.pow 10 n)

/-- The product of a number and a power of ten, if it is finite. -/
def scaledUp? (f : Binary64) (n : Nat) : Option Binary64 :=
  if 308 < n then if f = .finite 0 then some f else none
  else
    let product := f * tenTo n
    if product.isFinite then some product else none

/-- The quotient of a number and a power of ten, divided by at most `10 ^ 308` at a time. -/
def scaledDown (f : Binary64) (n : Nat) : Binary64 :=
  if n ≤ 308 then f / tenTo n
  else if f = .finite 0 then f
  else scaledDown (f / tenTo 308) (n - 308)
termination_by n
decreasing_by omega

/-- The absolute value of a floating-point number from the digits before and after the point and
the exponent, if it is in range. Only the leading digits count, as many as fit, and scaling rounds
once more. -/
def realOf (whole frac : List Char) (powerNegative : Bool) (power : Nat) : Option Binary64 :=
  let (significand, wholeLeft) := grow 0 whole
  let (significand, fracLeft) := grow significand frac
  if Nat.pow 2 31 ≤ power then
    if significand ≠ 0 ∧ !powerNegative then none else some (.finite 0)
  else
    let shift := Int.ofNat wholeLeft.length - Int.ofNat (frac.length - fracLeft.length)
    let exponent := if powerNegative then shift - power else shift + power
    let value := Binary64.ofNat significand
    if 0 ≤ exponent then scaledUp? value exponent.toNat
    else some (scaledDown value exponent.natAbs)

/-- The number of a sign, the digits before and after the point, and an exponent, if it is in
range. A whole number is exact where it can be; zero with a minus sign is not whole. -/
def numberOf (negative : Bool) (whole frac : List Char)
    (power : Option (List Char × List Char)) : Option Number :=
  let magnitude := Int.ofNat (Text.digitsValue whole)
  let value := if negative then -magnitude else magnitude
  if frac.isEmpty ∧ power.isNone ∧ Number.holds value ∧ ¬(negative ∧ value = 0) then
    some (.whole value)
  else
    let (powerSign, powerDigits) := power.getD ([], [])
    (realOf whole frac (!powerSign.isEmpty) (Text.digitsValue powerDigits)).map (.real negative)

/-- A number, and what follows it. -/
def number (cs : List Char) : Option (Document × List Char) := do
  let (negative, cs) := match cs with
    | '-' :: rest => (true, rest)
    | rest => (false, rest)
  let whole := cs.takeWhile Char.isDigit
  if whole.isEmpty ∨ (whole.head? = some '0' ∧ 1 < whole.length) then none
  let (frac, rest) ← fraction (cs.dropWhile Char.isDigit)
  let (power, rest) ← exponent rest
  return (match numberOf negative whole frac power with
    | some n => .number n
    | none => .unreadable, rest)

/-! ### Values -/

mutual

/-- A value after any space, and what follows it; `depth` more arrays and objects can be read. -/
def value : Nat → Nat → List Char → Option (Document × List Char)
  | 0, _, _ => none
  | fuel + 1, depth, cs =>
    match skipSpace cs with
    | 'n' :: 'u' :: 'l' :: 'l' :: rest => some (.null, rest)
    | 't' :: 'r' :: 'u' :: 'e' :: rest => some (.bool true, rest)
    | 'f' :: 'a' :: 'l' :: 's' :: 'e' :: rest => some (.bool false, rest)
    | '"' :: rest => text rest
    | '[' :: rest => do
      let (ds, rest) ← match skipSpace rest with
        | ']' :: rest => some ([], rest)
        | rest => items fuel (depth - 1) rest
      return (if depth = 0 then .unreadable else .array ds, rest)
    | '\x7b' :: rest => do
      let (es, rest) ← match skipSpace rest with
        | '\x7d' :: rest => some ([], rest)
        | rest => entries fuel (depth - 1) rest
      return (if depth = 0 then .unreadable else .map es, rest)
    | rest => number rest

/-- The items of an array up to its end, at least one, and what follows. -/
def items : Nat → Nat → List Char → Option (List Document × List Char)
  | 0, _, _ => none
  | fuel + 1, depth, cs => do
    let (first, rest) ← value fuel depth cs
    match skipSpace rest with
    | ',' :: rest =>
      let (others, rest) ← items fuel depth rest
      return (first :: others, rest)
    | ']' :: rest => return ([first], rest)
    | _ => none

/-- The members of an object up to its end, at least one, and what follows. -/
def entries : Nat → Nat → List Char → Option (List (Document × Document) × List Char)
  | 0, _, _ => none
  | fuel + 1, depth, cs => do
    match skipSpace cs with
    | '"' :: rest =>
      let (name, rest) ← text rest
      match skipSpace rest with
      | ':' :: rest =>
        let (first, rest) ← value fuel depth rest
        match skipSpace rest with
        | ',' :: rest =>
          let (others, rest) ← entries fuel depth rest
          return ((name, first) :: others, rest)
        | '\x7d' :: rest => return ([(name, first)], rest)
        | _ => none
      | _ => none
    | _ => none

end

end Reader

/-- The document that a JSON text writes. -/
def readDocument? (s : String) : Option Document := do
  let cs := s.toList
  let (d, rest) ← Reader.value (2 * cs.length + 2) Reader.depthLimit cs
  if (Reader.skipSpace rest).isEmpty then some d else none

/-- The value that a JSON text writes. -/
def read? (s : String) : Option Json :=
  (readDocument? s).bind Document.toJson?

end ClusterProvisioning.Json
