import ClusterProvisioning.Number.Binary64
import ClusterProvisioning.Text.Integer

/-!
# Decimal numbers

Numbers written in decimal digits, with a point and an exponent, and the binary floating-point
numbers nearest to them.
-/

namespace ClusterProvisioning

/-- The number `digits * 10 ^ exponent`, with a sign. -/
structure Decimal where
  negative : Bool
  digits : List Char
  exponent : Int
  deriving DecidableEq, Repr

namespace Decimal

/-- The absolute value in binary floating point. Numbers far outside its range are told by the
length of their digits alone. -/
def magnitude (d : Decimal) : Binary64 :=
  let value := Text.digitsValue d.digits
  let size := d.exponent + (d.digits.dropWhile (· == '0')).length
  if value = 0 ∨ size < -400 then .finite 0
  else if 400 < size then .infinite
  else if 0 ≤ d.exponent then .ofRatio (value * Nat.pow 10 d.exponent.toNat) 1
  else .ofRatio value (Nat.pow 10 d.exponent.natAbs)

/-- The exponent that decimal digits write after an optional sign. -/
def exponentOf? : List Char → Option Int
  | 'e' :: cs | 'E' :: cs => Text.readSigned cs
  | [] => some 0
  | _ => none

/-- The number that digits with at most one point and at least one digit write, perhaps with an
exponent. -/
def unsigned? (negative : Bool) (cs : List Char) : Option Decimal := do
  let whole := cs.takeWhile Char.isDigit
  let (frac, rest) := match cs.dropWhile Char.isDigit with
    | '.' :: rest => (rest.takeWhile Char.isDigit, rest.dropWhile Char.isDigit)
    | rest => ([], rest)
  if whole.isEmpty && frac.isEmpty then none
  let exponent ← exponentOf? rest
  return ⟨negative, whole ++ frac, exponent - frac.length⟩

/-- The number that a text writes after an optional sign. -/
def ofChars? : List Char → Option Decimal
  | '-' :: cs => unsigned? true cs
  | '+' :: cs | cs => unsigned? false cs

end Decimal

end ClusterProvisioning
