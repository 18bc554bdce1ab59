import ClusterProvisioning.Number.Decimal

/-!
# Shortest decimal digits

A floating-point number is written with as few digits as tell it from every other number of the
format, and of two such decimals with the one nearer to it. Every candidate is checked by reading
it back.
-/

namespace ClusterProvisioning.Binary64

/-- The decimal places kept of an exact value. The least number of the format has its first digit
at place 324. -/
def places : Nat := 400

/-- The digits of a number of steps, cut after the last place kept. -/
def expansion (steps : Nat) : List Char :=
  (toString (steps * Nat.pow 10 places / one)).toList

/-- Whether the decimal is read as the number of steps. -/
def isReadFrom (steps : Nat) (d : Decimal) : Bool :=
  d.magnitude == .finite steps

/-- The decimal of a whole number of units at a place. -/
def atPlace (units : Nat) (exponent : Int) : Decimal :=
  ⟨false, (toString units).toList, exponent⟩

/-- Whether `units + 1` is the better of two neighbours around the number of steps: the nearer one
or, at equal distance, the even one. -/
def isNearerAbove (steps units unit : Nat) : Bool :=
  let twice := 2 * steps * Nat.pow 10 places
  let middle := (2 * units + 1) * unit * one
  decide (middle < twice) || twice == middle && units % 2 == 1

/-- The best decimal of `count` digits that is read as the number of steps, whose digits are
given. -/
def withDigits? (steps : Nat) (digits : List Char) (count : Nat) : Option Decimal :=
  let units := Text.digitsValue (digits.take count)
  let dropped := digits.length - count
  let exponent := Int.ofNat dropped - Int.ofNat places
  let below := atPlace units exponent
  let above := atPlace (units + 1) exponent
  match isReadFrom steps below, isReadFrom steps above with
  | true, true => some (if isNearerAbove steps units (Nat.pow 10 dropped) then above else below)
  | true, false => some below
  | false, true => some above
  | false, false => none

/-- The decimal without zeros at its end. -/
def trimmed (d : Decimal) : Decimal :=
  let zeros := (d.digits.reverse.takeWhile (· == '0')).length
  ⟨d.negative, d.digits.take (d.digits.length - zeros), d.exponent + zeros⟩

/-- The shortest decimal that is read as a positive number of steps. Seventeen digits are enough
for every number of the format; beyond them stand the digits of the number itself. -/
def shortest (steps : Nat) : Decimal :=
  let digits := expansion steps
  trimmed (((List.range 17).findSome? fun n => withDigits? steps digits (n + 1)).getD
    ⟨false, digits, -Int.ofNat places⟩)

end ClusterProvisioning.Binary64

namespace ClusterProvisioning

/-- The text of a positive decimal: with a point when that takes at most sixteen places before it
or four zeros after it, and otherwise with an exponent. -/
def Decimal.layout (d : Decimal) : List Char :=
  let point := Int.ofNat d.digits.length + d.exponent
  if 0 ≤ d.exponent ∧ point ≤ 16 then
    d.digits ++ List.replicate d.exponent.toNat '0' ++ ['.', '0']
  else if 0 < point ∧ point ≤ 16 then
    d.digits.take point.toNat ++ '.' :: d.digits.drop point.toNat
  else if -5 < point ∧ point ≤ 0 then
    '0' :: '.' :: List.replicate point.natAbs '0' ++ d.digits
  else
    let power := 'e' :: (toString (point - 1)).toList
    match d.digits with
    | first :: second :: rest => first :: '.' :: second :: rest ++ power
    | digits => digits ++ power

/-- The text of a finite floating-point number, `none` for any other. -/
def Binary64.text? : Binary64 → Option (List Char)
  | .finite steps => some (if steps = 0 then ['0', '.', '0'] else (shortest steps).layout)
  | _ => none

end ClusterProvisioning
