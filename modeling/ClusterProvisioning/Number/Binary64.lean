/-!
# Binary floating point

The non-negative numbers of the binary64 format, with exact definitions of their arithmetic: every
result is the exact result rounded to the nearest number of the format, a half to the neighbour
with an even significand. Every finite number of the format is a whole number of steps of
`2 ^ -1074`, so a natural number holds it exactly.
-/

namespace ClusterProvisioning

/-- A non-negative binary64 number. -/
inductive Binary64 where
  /-- A finite number, as its count of steps of `2 ^ -1074`. -/
  | finite (steps : Nat)
  | infinite
  | nan
  deriving DecidableEq, Repr

namespace Binary64

/-- The steps of the number one. -/
def one : Nat := Nat.pow 2 1074

/-- The least count of steps that is no longer finite. -/
def limit : Nat := Nat.pow 2 (1024 + 1074)

/-- The whole number nearest to a quotient; of two equally near the even one. -/
def roundHalfEven (num den : Nat) : Nat :=
  let q := num / den
  let twice := 2 * (num % den)
  if twice < den then q
  else if den < twice then q + 1
  else q + q % 2

/-- The spacing of the format at numbers of `whole` steps: a significand has 53 bits. -/
def spacing (whole : Nat) : Nat :=
  Nat.pow 2 (Nat.log2 whole - 52)

/-- The number of the format nearest to a quotient counted in steps. -/
def ofStepRatio (num den : Nat) : Binary64 :=
  let unit := spacing (num / den)
  let steps := roundHalfEven num (den * unit) * unit
  if steps < limit then .finite steps else .infinite

/-- The number of the format nearest to a quotient. -/
def ofRatio (num den : Nat) : Binary64 :=
  ofStepRatio (num * one) den

/-- The number of the format nearest to a whole number. -/
def ofNat (n : Nat) : Binary64 := ofRatio n 1

/-- Product; zero times infinity is not a number. -/
def mul : Binary64 → Binary64 → Binary64
  | .nan, _ | _, .nan => .nan
  | .finite a, .finite b => ofStepRatio (a * b) one
  | .finite a, .infinite => if a = 0 then .nan else .infinite
  | .infinite, .finite b => if b = 0 then .nan else .infinite
  | .infinite, .infinite => .infinite

instance : Mul Binary64 := ⟨mul⟩

/-- One divided by the number. -/
def reciprocal : Binary64 → Binary64
  | .nan => .nan
  | .infinite => .finite 0
  | .finite a => if a = 0 then .infinite else ofStepRatio (one * one) a

/-- Quotient; a number other than zero divided by zero is infinite. -/
def div : Binary64 → Binary64 → Binary64
  | .nan, _ | _, .nan => .nan
  | .finite a, .finite b =>
    if b = 0 then if a = 0 then .nan else .infinite
    else ofStepRatio (a * one) b
  | .finite _, .infinite => .finite 0
  | .infinite, .finite _ => .infinite
  | .infinite, .infinite => .nan

instance : Div Binary64 := ⟨div⟩

/-- The power `acc * base ^ exponent` by repeated squaring, least significant bit first. -/
def powerFrom (acc base : Binary64) (exponent : Nat) : Binary64 :=
  let acc := if exponent % 2 = 1 then acc * base else acc
  if exponent / 2 = 0 then acc
  else powerFrom acc (base * base) (exponent / 2)
termination_by exponent
decreasing_by omega

/-- The power of a base to a whole exponent by repeated squaring; for a negative exponent the
reciprocal of the power to its absolute value. -/
def power (base : Binary64) (exponent : Int) : Binary64 :=
  let magnitude := powerFrom (ofNat 1) base exponent.natAbs
  if exponent < 0 then magnitude.reciprocal else magnitude

/-- Whether the number is finite. -/
def isFinite : Binary64 → Bool
  | .finite _ => true
  | _ => false

/-- Whether the number is a whole number. -/
def isWhole : Binary64 → Bool
  | .finite steps => steps % one == 0
  | _ => false

end Binary64

end ClusterProvisioning
