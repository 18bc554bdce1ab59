/-!
# Base64

Bytes written in the standard alphabet of base64, with padding.
-/

namespace ClusterProvisioning.Text.Base64

/-- The six bits that a character stands for. -/
def digit? (c : Char) : Option Nat :=
  if 'A' ≤ c ∧ c ≤ 'Z' then some (c.toNat - 'A'.toNat)
  else if 'a' ≤ c ∧ c ≤ 'z' then some (c.toNat - 'a'.toNat + 26)
  else if c.isDigit then some (c.toNat - '0'.toNat + 52)
  else if c = '+' then some 62
  else if c = '/' then some 63
  else none

/-- The bytes of four digits, or of the two or three at the end of a text, whose unused bits must be
zero. -/
def bytes? : List Nat → Option (List UInt8)
  | [] => some []
  | [a, b] => if b % 16 = 0 then some [.ofNat (4 * a + b / 16)] else none
  | [a, b, c] =>
    if c % 4 = 0 then some [.ofNat (4 * a + b / 16), .ofNat (b % 16 * 16 + c / 4)] else none
  | a :: b :: c :: d :: rest => do
    let bytes ← bytes? rest
    return .ofNat (4 * a + b / 16) :: .ofNat (b % 16 * 16 + c / 4) :: .ofNat (c % 4 * 64 + d)
      :: bytes
  | [_] => none

/-- The bytes that a text writes. Padding fills the last four characters and nothing else. -/
def decode? (cs : List Char) : Option (List UInt8) := do
  let digits := cs.takeWhile (· != '=')
  let padding := cs.drop digits.length
  if cs.length % 4 = 0 ∧ padding.length ≤ 2 ∧ padding.all (· == '=') then
    bytes? (← digits.mapM digit?)
  else none

end ClusterProvisioning.Text.Base64
