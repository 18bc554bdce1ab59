/-!
# Integers in text

Reading whole numbers from decimal digits, with the optional signs that the readers of this
library allow.
-/

namespace ClusterProvisioning.Text

/-- The value of an ASCII decimal digit. -/
def digitValue (c : Char) : Nat := c.toNat - '0'.toNat

/-- The number that a list of decimal digits writes, most significant digit first. -/
def digitsValue (cs : List Char) : Nat :=
  cs.foldl (fun value c => 10 * value + digitValue c) 0

/-- A non-empty list of decimal digits and nothing else. -/
def readDigits (cs : List Char) : Option Nat :=
  if cs.isEmpty then none
  else if cs.all Char.isDigit then some (digitsValue cs)
  else none

/-- Decimal digits after an optional plus sign. -/
def readUnsigned : List Char → Option Nat
  | '+' :: cs => readDigits cs
  | cs => readDigits cs

/-- Decimal digits after an optional sign. -/
def readSigned : List Char → Option Int
  | '+' :: cs => (readDigits cs).map Int.ofNat
  | '-' :: cs => (readDigits cs).map fun n => -Int.ofNat n
  | cs => (readDigits cs).map Int.ofNat

/-- An unsigned decimal number below a limit. -/
def readBelow (limit : Nat) (s : String) : Option Nat :=
  (readUnsigned s.toList).filter (· < limit)

/-- The value of a digit in bases up to sixteen, in either letter case. -/
def hexValue (c : Char) : Option Nat :=
  if c.isDigit then some (c.toNat - '0'.toNat)
  else if 'a' ≤ c ∧ c ≤ 'f' then some (c.toNat - 'a'.toNat + 10)
  else if 'A' ≤ c ∧ c ≤ 'F' then some (c.toNat - 'A'.toNat + 10)
  else none

/-- A non-empty list of digits of the given base. -/
def readBase (base : Nat) (cs : List Char) : Option Nat :=
  if cs.isEmpty then none
  else cs.foldlM (fun value c => (hexValue c).bind fun d =>
    if d < base then some (base * value + d) else none) 0

end ClusterProvisioning.Text
