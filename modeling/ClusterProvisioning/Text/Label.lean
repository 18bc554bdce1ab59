import ClusterProvisioning.Text.Blank

/-!
# Labels

Names that the cluster accepts, derived from any text: lower-case letters, digits and single
hyphens, a hyphen neither first nor last.
-/

namespace ClusterProvisioning.Text

/-- The greatest length of a label, short enough for a suffix within the limit of 63. -/
def labelLimit : Nat := 52

/-- Whether a label takes the character as it is. -/
def isLabelChar (c : Char) : Bool :=
  ('a' ≤ c && c ≤ 'z') || c.isDigit

/-- The lower-case form of a character. Outside ASCII only the Kelvin sign and the dotted capital I
have a letter that labels take in theirs; every other character stands for itself. -/
def lowerChar (c : Char) : List Char :=
  if 'A' ≤ c ∧ c ≤ 'Z' then [c.toLower]
  else if c.toNat = 0x212a then ['k']
  else if c.toNat = 0x130 then ['i', Char.ofNat 0x307]
  else [c]

/-- The lower-case form of a text, blank characters around it aside. -/
def lowered (cs : List Char) : List Char :=
  (trimChars cs).flatMap lowerChar

/-- Adds a character to the reverse of a label. A run of characters that a label does not take
becomes one hyphen, and none at the start. -/
def pushLabel (reversed : List Char) (c : Char) : List Char :=
  if isLabelChar c then c :: reversed
  else match reversed with
    | [] => []
    | '-' :: rest => '-' :: rest
    | last :: rest => '-' :: last :: rest

/-- The label derived from a text, empty if the text has no character that a label takes. -/
def labelChars (cs : List Char) : List Char :=
  dropEndWhile (· == '-') (((lowered cs).foldl pushLabel []).reverse.take labelLimit)

/-- The label derived from a text. -/
def label? (s : String) : Option String :=
  match labelChars s.toList with
  | [] => none
  | cs => some (String.ofList cs)

end ClusterProvisioning.Text
