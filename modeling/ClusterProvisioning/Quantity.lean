import ClusterProvisioning.Number.Binary64
import ClusterProvisioning.Text.Blank
import ClusterProvisioning.Text.Integer
import ClusterProvisioning.Text.Quoted

/-!
# Quantities

Resource quantities as manifests write them (`500m`, `8Gi`, `1e3`), read into whole units:
millicores of CPU, bytes of memory, countable devices. The arithmetic is that of binary floating
point: the decimal part is rounded once, then multiplied by the value of the suffix.
-/

namespace ClusterProvisioning

/-- The extended resource under which nodes advertise and pods request GPUs. -/
def gpuResource : String := "nvidia.com/gpu"

/-- Why the decimal part of a quantity is no number. -/
inductive NumberError where
  | empty
  | malformed
  deriving DecidableEq, Repr

def NumberError.message : NumberError → String
  | .empty => "cannot parse float from empty string"
  | .malformed => "invalid float literal"

/-- Why a text is no quantity. -/
inductive QuantityFault where
  | emptyValue
  | notNumeric (cause : NumberError)
  | notFinite
  | negative
  | unsupportedSuffix
  | notWhole
  | outOfRange
  deriving DecidableEq, Repr

def QuantityFault.message : QuantityFault → String
  | .emptyValue => "empty value"
  | .notNumeric _ => "invalid numeric part"
  | .notFinite => "not a finite number"
  | .negative => "negative quantity"
  | .unsupportedSuffix => "unsupported suffix"
  | .notWhole => "countable resources must be whole numbers"
  | .outOfRange => "out of range"

/-- A text that is no quantity, and why. -/
structure QuantityError where
  input : String
  fault : QuantityFault
  deriving DecidableEq, Repr

def QuantityError.message (e : QuantityError) : String :=
  s!"Invalid quantity {Text.quote e.input}: {e.fault.message}"

namespace Quantity

/-- The characters that the decimal part is made of. -/
def isNumeric (c : Char) : Bool :=
  c.isDigit || c == '.' || c == '+' || c == '-'

/-- A decimal number as a sign and a quotient of natural numbers. -/
structure Decimal where
  negative : Bool
  num : Nat
  den : Nat
  deriving DecidableEq, Repr

/-- Whether a number has a minus sign, and what follows the sign if there is one. -/
def signOf : List Char → Bool × List Char
  | '-' :: rest => (true, rest)
  | '+' :: rest => (false, rest)
  | rest => (false, rest)

/-- The digits after a point; none where nothing follows the digits before it. -/
def fraction? : List Char → Option (List Char)
  | [] => some []
  | '.' :: rest => if rest.all Char.isDigit then some rest else none
  | _ => none

/-- An optional sign and decimal digits with at most one point and at least one digit. -/
def decimal (cs : List Char) : Except NumberError Decimal :=
  let (negative, digits) := signOf cs
  let whole := digits.takeWhile Char.isDigit
  match fraction? (digits.dropWhile Char.isDigit) with
  | some frac =>
    if cs.isEmpty then .error .empty
    else if whole.isEmpty && frac.isEmpty then .error .malformed
    else .ok ⟨negative, Text.digitsValue (whole ++ frac), Nat.pow 10 frac.length⟩
  | none => .error .malformed

/-- The suffixes that are not exponents, with their values. -/
def suffixValue? (suffix : String) : Option Binary64 :=
  match suffix with
  | "" => some (.ofNat 1)
  | "n" => some (.ofRatio 1 (Nat.pow 10 9))
  | "u" => some (.ofRatio 1 (Nat.pow 10 6))
  | "m" => some (.ofRatio 1 (Nat.pow 10 3))
  | "k" => some (.ofNat (Nat.pow 10 3))
  | "M" => some (.ofNat (Nat.pow 10 6))
  | "G" => some (.ofNat (Nat.pow 10 9))
  | "T" => some (.ofNat (Nat.pow 10 12))
  | "P" => some (.ofNat (Nat.pow 10 15))
  | "E" => some (.ofNat (Nat.pow 10 18))
  | "Ki" => some (.ofNat 1024)
  | "Mi" => some (.ofNat (Nat.pow 1024 2))
  | "Gi" => some (.ofNat (Nat.pow 1024 3))
  | "Ti" => some (.ofNat (Nat.pow 1024 4))
  | "Pi" => some (.ofNat (Nat.pow 1024 5))
  | "Ei" => some (.ofNat (Nat.pow 1024 6))
  | _ => none

/-- The exponent of a suffix such as `e3`, within the range of 32-bit integers. -/
def exponent? : List Char → Option Int
  | 'e' :: digits | 'E' :: digits =>
    (Text.readSigned digits).filter fun n =>
      decide (-(Nat.pow 2 31) ≤ n) && decide (n < Nat.pow 2 31)
  | _ => none

/-- The factor that a suffix stands for. -/
def multiplier? (suffix : List Char) : Option Binary64 :=
  match suffixValue? (String.ofList suffix) with
  | some value => some value
  | none => (exponent? suffix).map fun n => Binary64.power (.ofNat 10) n

/-- The number that a trimmed, non-empty text writes. -/
def scaledChars (cs : List Char) : Except QuantityFault Binary64 := do
  let numeric := cs.takeWhile isNumeric
  let suffix := cs.dropWhile isNumeric
  let d ← (decimal numeric).mapError .notNumeric
  let value := Binary64.ofRatio d.num d.den
  if !value.isFinite then throw .notFinite
  if d.negative && value ≠ .finite 0 then throw .negative
  match multiplier? suffix with
  | some factor => return value * factor
  | none => throw .unsupportedSuffix

/-- The number that a text writes, blank characters around it aside. -/
def scaled (cs : List Char) : Except QuantityFault Binary64 :=
  let trimmed := Text.trimChars cs
  if trimmed.isEmpty then throw .emptyValue else scaledChars trimmed

/-- Whether a distance, in steps, is below `1e-6`: rounding noise that does not count. -/
def isNegligible (steps : Nat) : Bool :=
  match Binary64.ofRatio 1 (Nat.pow 10 6) with
  | .finite tolerance => decide (steps < tolerance)
  | _ => false

/-- A number in whole units: the nearest whole number when its distance is negligible, else the next
greater one. -/
def toUnits : Binary64 → Except QuantityFault UInt64
  | .finite steps =>
    if UInt64.size * Binary64.one ≤ steps then throw .outOfRange
    else
      let nearest := (steps + Binary64.one / 2) / Binary64.one
      let distance := (steps - nearest * Binary64.one) + (nearest * Binary64.one - steps)
      if isNegligible distance then return .ofNat nearest
      else return .ofNat ((steps + Binary64.one - 1) / Binary64.one)
  | _ => throw .outOfRange

/-- Names the text that a fault was found in. -/
def blame {α : Type} (input : String) (r : Except QuantityFault α) : Except QuantityError α :=
  r.mapError fun fault => ⟨input, fault⟩

/-- CPU in millicores. -/
def cpuMillis (s : String) : Except QuantityError UInt64 :=
  blame s do toUnits ((← scaled s.toList) * .ofNat 1000)

/-- Memory in bytes. -/
def memoryBytes (s : String) : Except QuantityError UInt64 :=
  blame s do toUnits (← scaled s.toList)

/-- A countable resource; a fraction is refused. -/
def count (s : String) : Except QuantityError UInt64 :=
  blame s do
    let n ← scaled s.toList
    if !n.isWhole then throw .notWhole
    toUnits n

end Quantity

end ClusterProvisioning
