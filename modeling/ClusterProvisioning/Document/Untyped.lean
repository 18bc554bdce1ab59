import ClusterProvisioning.Document.Decode
import ClusterProvisioning.Number.Decimal

/-!
# Documents that are read before their types are known

Where a YAML document is stored before its fields are read, an unquoted scalar takes the type that
it looks like, a tagged one the type of its tag, and no map may name an entry twice.
-/

namespace ClusterProvisioning.Document

/-! ### Numbers -/

/-- Whether the text is a word for infinity. -/
def isInfinity (s : String) : Bool := s == ".inf" || s == ".Inf" || s == ".INF"

/-- Whether the text is a word for no number. -/
def isNoNumber (s : String) : Bool := s == ".nan" || s == ".NaN" || s == ".NAN"

/-- A decimal number within the range of binary floating point, and whether it is negative. -/
def decimalValue? (cs : List Char) : Option (Bool × Binary64) := do
  let d ← Decimal.ofChars? cs
  if d.magnitude.isFinite then some (d.negative, d.magnitude) else none

/-- The value of a floating-point number, and whether it is negative. -/
def realValue? (s : String) : Option (Bool × Binary64) :=
  if isNoNumber s then some (false, .nan)
  else match s.toList with
    | '-' :: cs =>
      if isInfinity (String.ofList cs) then some (true, .infinite) else decimalValue? s.toList
    | '+' :: cs =>
      if isInfinity (String.ofList cs) then some (false, .infinite) else decimalValue? s.toList
    | cs => if isInfinity s then some (false, .infinite) else decimalValue? cs

/-- Whether two floating-point numbers are equal; both zeros are. -/
def sameReal : Bool × Binary64 → Bool × Binary64 → Bool
  | (_, .finite 0), (_, .finite 0) => true
  | a, b => a == b

/-- Whether the text is digits after a leading zero, which make no number. -/
def isZeroPadded (s : String) : Bool :=
  let cs := match s.toList with
    | '+' :: cs | '-' :: cs => cs
    | cs => cs
  1 < cs.length && cs.head? == some '0' && cs.all Char.isDigit

/-- The whole number that an unquoted scalar writes. -/
def plainInt? (s : String) : Option Int :=
  match s.toList with
  | '-' :: cs =>
    if cs.head? == some '+' then none
    else (plainNat? (String.ofList cs)).map fun n => -Int.ofNat n
  | _ => (plainNat? s).map Int.ofNat

/-- What a text is as a whole number. -/
inductive WholeNumber where
  /-- No whole number, or one that takes more than 128 bits. -/
  | none
  /-- One that takes more than 64 bits, which cannot be stored. -/
  | large
  | of (value : Int)

/-- The whole number that an unquoted scalar is read as. -/
def wholeNumber (s : String) : WholeNumber :=
  match plainInt? s with
  | some n =>
    if Json.Number.holds n then .of n
    else if -(Nat.pow 2 127) ≤ n ∧ n < Nat.pow 2 128 then .large
    else .none
  | Option.none => .none

/-! ### Scalars -/

/-- The value that an unquoted scalar looks like. -/
def ofPlain? (s : String) : Option Document :=
  if s == "" || isNullWord s then some .null
  else match truthWord? s, wholeNumber s with
    | some b, _ => some (.bool b)
    | none, .of n => some (.number (.whole n))
    | none, .large => none
    | none, .none =>
      match realValue? s with
      | some (negative, magnitude) =>
        if isZeroPadded s then some (.string s) else some (.number (.real negative magnitude))
      | none => some (.string s)

/-- The value of a scalar under a tag of the common ones, which must fit it. -/
def ofTagged? (s : String) : Tag → Option Document
  | .null => if isNullWord s then some .null else none
  | .bool => (truthWord? s).map .bool
  | .int =>
    match wholeNumber s with
    | .of n => some (.number (.whole n))
    | _ => none
  | .float => (realValue? s).map fun (negative, magnitude) => .number (.real negative magnitude)
  | .own _ | .other => some (.string s)

/-! ### Equal values -/

mutual

/-- Whether two documents stand for one value. Numbers are compared by value, the entries of maps
in any order. -/
def same : Document → Document → Bool
  | .null, .null => true
  | .bool a, .bool b => a == b
  | .number (.whole m), .number (.whole n) => m == n
  | .number (.real m x), .number (.real n y) => sameReal (m, x) (n, y)
  | .string a, .string b => a == b
  | .sequence a, .sequence b => sameItems a b
  | .map a, .map b => a.length == b.length && sameEntries a b
  | .tagged s a, .tagged t b => s == t && same a b
  | _, _ => false

/-- Whether two lists have the same values in order. -/
def sameItems : List Document → List Document → Bool
  | [], [] => true
  | a :: as, b :: bs => same a b && sameItems as bs
  | _, _ => false

/-- Whether every entry of the first list is among those of the second. -/
def sameEntries : List (Document × Document) → List (Document × Document) → Bool
  | [], _ => true
  | (key, value) :: rest, others =>
    others.any (fun other => same key other.1 && same value other.2) && sameEntries rest others

end

/-- Whether no two documents of a list stand for one value. -/
def areDistinct : List Document → Bool
  | [] => true
  | d :: rest => !rest.any (same d) && areDistinct rest

/-! ### Whole documents -/

mutual

/-- The document with every scalar as the value that it looks like or is tagged to be. At most
`depth` lists and maps may stand inside one another, and no map may name an entry twice. -/
def untyped? (depth : Nat) : Document → Option Document
  | .plain s => ofPlain? s
  | .literal s | .string s => some (.string s)
  | .tagged (.own (some name)) d =>
    if name == "" then none else (untyped? depth d).map (.tagged (.own (some name)))
  | .tagged (.own none) d => untyped? depth d
  | .tagged tag (.plain s) | .tagged tag (.literal s) | .tagged tag (.string s) => ofTagged? s tag
  | .tagged _ d => untyped? depth d
  | .sequence items =>
    if depth = 0 then none else (untypedItems (depth - 1) items).map .sequence
  | .map entries => do
    if depth = 0 then none
    let entries ← untypedEntries (depth - 1) entries
    if areDistinct (entries.map (·.1)) then some (.map entries) else none
  | .unreadable => none
  | d => some d

/-- The items of a list, each as `untyped?` gives it. -/
def untypedItems (depth : Nat) : List Document → Option (List Document)
  | [] => some []
  | d :: rest => do return (← untyped? depth d) :: (← untypedItems depth rest)

/-- The entries of a map, each as `untyped?` gives it. -/
def untypedEntries (depth : Nat) :
    List (Document × Document) → Option (List (Document × Document))
  | [] => some []
  | (k, v) :: rest => do
    return (← untyped? depth k, ← untyped? depth v) :: (← untypedEntries depth rest)

end

end ClusterProvisioning.Document
