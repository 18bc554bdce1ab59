import ClusterProvisioning.Text.Integer
import ClusterProvisioning.Yaml.Place

/-!
# YAML scalars

Scalars without quotes, in single or double quotes, and written as a block of lines. A line feed
inside a scalar is folded: alone it is a space, and of several the first is dropped. A line that
begins or ends a document does not continue a scalar.
-/

namespace ClusterProvisioning.Yaml

/-- How a scalar is written. -/
inductive Style where
  | plain
  | quoted
  /-- A block of lines that are kept as they are. -/
  | literal
  | folded
  deriving DecidableEq, Repr

/-- Whether the character brackets or separates what stands in a flow collection. -/
def isFlowMark (c : Char) : Bool :=
  c == ',' || c == '[' || c == ']' || c == '\x7b' || c == '\x7d'

/-! ### Gaps -/

/-- The blank characters between two words of a scalar. -/
inductive Gap where
  /-- Spaces on one line, which stand for themselves. -/
  | spaces (cs : List Char)
  /-- Line breaks, the first of them unless it is escaped and the others, and how many spaces follow
  the last. -/
  | breaks (first : Option Char) (more : List Char) (column : Nat)

namespace Gap

def none : Gap := .spaces []

/-- The gap with another blank character at its end. -/
def push : Gap → Char → Gap
  | .spaces cs, c => if isBreak c then .breaks (some c) [] 0 else .spaces (cs ++ [c])
  | .breaks first more column, c =>
    if isBreak c then .breaks first (more ++ [c]) 0 else .breaks first more (column + 1)

/-- What the gap stands for. -/
def text : Gap → List Char
  | .spaces cs => cs
  | .breaks (some '\n') [] _ => [' ']
  | .breaks (some '\n') more _ => more
  | .breaks first more _ => first.toList ++ more

/-- Whether the gap has line breaks. -/
def isBroken : Gap → Bool
  | .spaces _ => false
  | .breaks .. => true

def isEmpty : Gap → Bool
  | .spaces cs => cs.isEmpty
  | .breaks .. => false

/-- Whether what follows the gap is indented by less than `least` on a further line. -/
def isShallow (least : Nat) : Gap → Bool
  | .spaces _ => false
  | .breaks _ _ column => column < least

/-- Whether a mark of a document follows the gap. -/
def endsAtMark (gap : Gap) (cs : List Char) : Bool :=
  gap.isShallow 1 && startsMark cs

end Gap

/-! ### Scalars without quotes -/

/-- Whether a scalar without quotes may begin here. -/
def startsPlain (inFlow : Bool) : List Char → Bool
  | [] => false
  | '-' :: rest => !(rest.head?.any isSpace)
  | '?' :: rest | ':' :: rest => !inFlow && !startsBlank rest
  | c :: _ => !(isBlank c || isFlowMark c || "#&*!|>'\"%@`".toList.contains c)

/-- A scalar without quotes: its text, whether line breaks follow it, and what follows them. -/
structure PlainScalar where
  text : List Char
  endsLine : Bool
  rest : List Char

/-- Reads a scalar without quotes after a gap. Its further lines are indented by `least` or more
unless it stands in a flow collection. A tab short of that indentation is refused, and so is a colon
before a mark of a flow collection inside one. -/
def plain (inFlow : Bool) (least : Nat) : Gap → List Char → Option PlainScalar
  | gap, [] => some ⟨[], gap.isBroken, []⟩
  | gap, c :: rest =>
    if isBlank c then
      if c == '\t' && gap.isShallow least then none
      else plain inFlow least (gap.push c) rest
    else if gap.endsAtMark (c :: rest) || (!gap.isEmpty && c == '#')
        || (!inFlow && gap.isShallow least) then
      some ⟨[], gap.isBroken, c :: rest⟩
    else if inFlow && c == ':' && (rest.head?.any fun m => isFlowMark m || m == '?') then none
    else if (c == ':' && startsBlank rest) || (inFlow && isFlowMark c) then
      some ⟨[], gap.isBroken, c :: rest⟩
    else do
      let scalar ← plain inFlow least .none rest
      return { scalar with text := gap.text ++ c :: scalar.text }

/-! ### Scalars in quotes -/

/-- A scalar in single quotes after the opening one and a gap, and what follows the closing one. A
quote inside is written twice. -/
def singleQuoted : Gap → List Char → Option (List Char × List Char)
  | _, [] => none
  | gap, '\'' :: '\'' :: rest => do
    let (text, rest) ← singleQuoted .none rest
    return (gap.text ++ '\'' :: text, rest)
  | gap, '\'' :: rest => some (gap.text, rest)
  | gap, c :: rest =>
    if isBlank c then singleQuoted (gap.push c) rest
    else if gap.endsAtMark (c :: rest) then none
    else do
      let (text, rest) ← singleQuoted .none rest
      return (gap.text ++ c :: text, rest)

/-- The character that a one-character escape stands for. -/
def escaped? : Char → Option Char
  | '0' => some '\x00'
  | 'a' => some '\x07'
  | 'b' => some '\x08'
  | 't' | '\t' => some '\t'
  | 'n' => some '\n'
  | 'v' => some '\x0b'
  | 'f' => some '\x0c'
  | 'r' => some '\r'
  | 'e' => some '\x1b'
  | ' ' => some ' '
  | '"' => some '"'
  | '/' => some '/'
  | '\\' => some '\\'
  | 'N' => some '\x85'
  | '_' => some '\xa0'
  | 'L' => some '\u2028'
  | 'P' => some '\u2029'
  | _ => none

/-- The character with the number that hexadecimal digits write. -/
def numbered? (digits : List Char) : Option Char := do
  let n ← Text.readBase 16 digits
  if n.isValidChar then some (Char.ofNat n) else none

/-- A scalar in double quotes after the opening one and a gap, and what follows the closing one. -/
def doubleQuoted : Gap → List Char → Option (List Char × List Char)
  | _, [] => none
  | gap, '"' :: rest => some (gap.text, rest)
  | gap, '\\' :: 'x' :: a :: b :: rest => do
    let c ← numbered? [a, b]
    let (text, rest) ← doubleQuoted .none rest
    return (gap.text ++ c :: text, rest)
  | gap, '\\' :: 'u' :: a :: b :: c :: d :: rest => do
    let c ← numbered? [a, b, c, d]
    let (text, rest) ← doubleQuoted .none rest
    return (gap.text ++ c :: text, rest)
  | gap, '\\' :: 'U' :: a :: b :: c :: d :: e :: f :: g :: h :: rest => do
    let c ← numbered? [a, b, c, d, e, f, g, h]
    let (text, rest) ← doubleQuoted .none rest
    return (gap.text ++ c :: text, rest)
  | gap, '\\' :: letter :: rest =>
    if isBreak letter then do
      let (text, rest) ← doubleQuoted (.breaks Option.none [] 0) rest
      return (gap.text ++ text, rest)
    else do
      let c ← escaped? letter
      let (text, rest) ← doubleQuoted .none rest
      return (gap.text ++ c :: text, rest)
  | gap, c :: rest =>
    if isBlank c then doubleQuoted (gap.push c) rest
    else if gap.endsAtMark (c :: rest) then none
    else do
      let (text, rest) ← doubleQuoted .none rest
      return (gap.text ++ c :: text, rest)

/-! ### Scalars written as a block of lines -/

/-- A line with the line break at its end; the last line of a text may have none. -/
structure Line where
  chars : List Char
  ending : Option Char

/-- The lines of a text. -/
def lines : List Char → List Line
  | [] => []
  | c :: rest =>
    if isBreak c then ⟨[], some c⟩ :: lines rest
    else match lines rest with
      | [] => [⟨[c], none⟩]
      | line :: others => { line with chars := c :: line.chars } :: others

/-- The text that has these lines. -/
def unlines (ls : List Line) : List Char :=
  ls.flatMap fun line => line.chars ++ line.ending.toList

/-- What becomes of the line breaks at the end of a block. -/
inductive Chomping where
  | strip
  | clip
  | keep
  deriving DecidableEq, Repr

/-- The head of a block: whether its lines are folded, its indentation if that is given, and its
chomping. -/
structure BlockHead where
  folds : Bool
  indent : Option Nat
  chomping : Chomping

/-- The chomping that a character asks for. -/
def chomping? : Char → Option Chomping
  | '-' => some .strip
  | '+' => some .keep
  | _ => none

/-- The indentation that a digit asks for. -/
def indent? (c : Char) : Option Nat :=
  if '1' ≤ c ∧ c ≤ '9' then some (Text.digitValue c) else none

/-- The chomping and the indentation after the mark of a block, in either order. -/
def BlockHead.read (folds : Bool) : List Char → BlockHead × List Char
  | a :: b :: rest =>
    match chomping? a, indent? b, indent? a, chomping? b with
    | some chomping, some n, _, _ => (⟨folds, some n, chomping⟩, rest)
    | _, _, some n, some chomping => (⟨folds, some n, chomping⟩, rest)
    | some chomping, _, _, _ => (⟨folds, none, chomping⟩, b :: rest)
    | _, _, some n, _ => (⟨folds, some n, .clip⟩, b :: rest)
    | _, _, _, _ => (⟨folds, none, .clip⟩, a :: b :: rest)
  | [a] =>
    match chomping? a, indent? a with
    | some chomping, _ => (⟨folds, none, chomping⟩, [])
    | _, some n => (⟨folds, some n, .clip⟩, [])
    | _, _ => (⟨folds, none, .clip⟩, [a])
  | [] => (⟨folds, none, .clip⟩, [])

/-- What follows a line break, if only spaces and a comment stand before it. -/
def afterLine? (cs : List Char) : Option (List Char) :=
  let content := cs.dropWhile isSpace
  let rest := if content.head? == some '#' then content.dropWhile (!isBreak ·) else content
  if startsBreak rest then some (rest.drop 1) else none

def Line.spaces (line : Line) : Nat := (line.chars.takeWhile (· == ' ')).length

/-- The indentation of a block whose head gives none: that of its first line with more than spaces,
or of a line of spaces before it, and no less than `least`. A tab there is refused. -/
def blockIndent (least : Nat) : List Line → Option Nat
  | [] => some least
  | line :: rest =>
    let indent := max least line.spaces
    match line.chars.drop line.spaces, line.ending with
    | [], some _ => blockIndent indent rest
    | '\t' :: _, _ => none
    | _, _ => some indent

/-- A line of a block that is not blank, without its indentation, after the breaks of the blank
lines before it. -/
structure BlockLine where
  blanks : List Char
  line : Line

/-- What a block of lines holds, the breaks of the blank lines at its end, and what follows. -/
structure BlockBody where
  lines : List BlockLine
  blanks : List Char
  rest : List Char

/-- Reads the lines that have the indentation of a block, after the breaks of some blank ones. A tab
in the indentation is refused. -/
def blockBody (indent : Nat) (blanks : List Char) : List Line → Option BlockBody
  | [] => some ⟨[], blanks, []⟩
  | line :: rest =>
    let spaces := min indent line.spaces
    match line.chars.drop spaces, line.ending with
    | [], some ending => blockBody indent (blanks ++ [ending]) rest
    | [], none => some ⟨[], blanks, []⟩
    | c :: cs, ending =>
      if spaces = indent then do
        let body ← blockBody indent [] rest
        return { body with lines := ⟨blanks, ⟨c :: cs, ending⟩⟩ :: body.lines }
      else if c = '\t' then none
      else some ⟨[], blanks, unlines (⟨c :: cs, ending⟩ :: rest)⟩

def Line.startsSpace (line : Line) : Bool := line.chars.head?.any isSpace

/-- What stands between two lines of a block. -/
def blockJoint (folds : Bool) (before : Line) (next : BlockLine) : List Char :=
  if folds && before.ending == some '\n' && !before.startsSpace && !next.line.startsSpace then
    if next.blanks.isEmpty then [' '] else next.blanks
  else before.ending.toList ++ next.blanks

/-- The text of the lines of a block after one of them, up to the end of the last; and the line
break there. -/
def blockText (folds : Bool) (before : Line) : List BlockLine → List Char × Option Char
  | [] => ([], before.ending)
  | next :: rest =>
    let (text, ending) := blockText folds next.line rest
    (blockJoint folds before next ++ next.line.chars ++ text, ending)

/-- The text of a block. -/
def BlockHead.text (head : BlockHead) (body : BlockBody) : List Char :=
  let (text, ending) := match body.lines with
    | [] => ([], none)
    | first :: rest =>
      let (text, ending) := blockText head.folds first.line rest
      (first.blanks ++ first.line.chars ++ text, ending)
  match head.chomping with
  | .strip => text
  | .clip => text ++ ending.toList
  | .keep => text ++ ending.toList ++ body.blanks

/-- A scalar written as a block of lines after its mark, and what follows it. Its lines are indented
by `least` or more, and by one at least. -/
def block (folds : Bool) (least : Nat) (cs : List Char) : Option (List Char × List Char) := do
  let (head, rest) := BlockHead.read folds cs
  let all := lines (← afterLine? rest)
  let indent ← match head.indent with
    | some n => some (least - 1 + n)
    | none => blockIndent (max least 1) all
  let body ← blockBody indent [] all
  return (head.text body, body.rest)

end ClusterProvisioning.Yaml
