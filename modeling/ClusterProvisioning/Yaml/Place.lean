/-!
# Places in a YAML text

The line breaks and blank characters of YAML, and places in a text with the position that decides
what may be written there.
-/

namespace ClusterProvisioning.Yaml

/-! ### Blank characters -/

/-- Whether the character ends a line, in a text whose other line breaks are all written as line
feeds. -/
def isBreak (c : Char) : Bool := c == '\n' || c == '\u2028' || c == '\u2029'

def isSpace (c : Char) : Bool := c == ' ' || c == '\t'

def isBlank (c : Char) : Bool := isSpace c || isBreak c

/-- Whether a text ends here, or goes on with a blank character. -/
def startsBlank : List Char → Bool
  | [] => true
  | c :: _ => isBlank c

/-- Whether a text ends here, or goes on with a line break. -/
def startsBreak : List Char → Bool
  | [] => true
  | c :: _ => isBreak c

/-- Whether a mark stands here that begins or ends a document at the start of a line. -/
def startsMark : List Char → Bool
  | '-' :: '-' :: '-' :: rest | '.' :: '.' :: '.' :: rest => startsBlank rest
  | _ => false

/-- The text with every carriage return and next-line character as a line feed, and of those that
stand together only one. -/
def withLineFeeds : List Char → List Char
  | '\r' :: '\n' :: rest => '\n' :: withLineFeeds rest
  | '\r' :: rest | '\x85' :: rest => '\n' :: withLineFeeds rest
  | c :: rest => c :: withLineFeeds rest
  | [] => []

/-! ### Places -/

/-- A place in a text: what follows it, and where it is. -/
structure Place where
  rest : List Char
  /-- The bytes before the place. -/
  offset : Nat
  line : Nat
  /-- The characters before the place on its line. -/
  column : Nat

namespace Place

/-- The first place of a text. -/
def start (cs : List Char) : Place := ⟨cs, 0, 0, 0⟩

/-- The place after a character, before the same rest. -/
def pass (p : Place) (c : Char) : Place :=
  if isBreak c then ⟨p.rest, p.offset + c.utf8Size, p.line + 1, 0⟩
  else ⟨p.rest, p.offset + c.utf8Size, p.line, p.column + 1⟩

/-- The later place that has this rest. -/
def moveTo (p : Place) (rest : List Char) : Place :=
  let passed := p.rest.take (p.rest.length - rest.length)
  { passed.foldl pass p with rest := rest }

end Place

end ClusterProvisioning.Yaml
