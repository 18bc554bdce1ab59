import ClusterProvisioning.Yaml.Token

/-!
# Reading YAML tokens

Tokens are read from left to right with the columns of the open block collections in mind. That a
token is the key of a mapping shows only at the colon after it; the tokens that begin the key are
then put before it. A key without a question mark stands on one line, and no more than
`Lexer.keyLimit` bytes before its colon.
-/

namespace ClusterProvisioning.Yaml

/-- A token that may turn out to begin a key, by its number, and where it stands. It is `required`
to be one if it begins a line at the column of the innermost block collection. -/
structure PossibleKey where
  index : Nat
  required : Bool
  offset : Nat
  line : Nat
  column : Nat

/-- What is known between two tokens. -/
structure Lexer where
  place : Place
  /-- The tokens so far, each after those that begin it as a key. -/
  tokens : Array (List Token × Token)
  /-- The columns of the open block collections, the innermost first. -/
  columns : List Nat
  /-- The last token that may begin a key of the innermost collection. -/
  pending : Option PossibleKey
  /-- The same for the collections around it, one for each open flow collection. -/
  outer : List (Option PossibleKey)
  /-- Whether the next token may begin a key without a question mark. -/
  allowsKey : Bool

namespace Lexer

/-- How many bytes may stand between the beginning of a key and its colon. -/
def keyLimit : Nat := 1024

def start (cs : List Char) : Lexer := ⟨.start cs, #[], [], none, [], true⟩

def inFlow (s : Lexer) : Bool := !s.outer.isEmpty

/-- The least column of what belongs to the innermost block collection. -/
def least (s : Lexer) : Nat :=
  match s.columns with
  | [] => 0
  | column :: _ => column + 1

def push (s : Lexer) (t : Token) : Lexer := { s with tokens := s.tokens.push ([], t) }

def moveTo (s : Lexer) (rest : List Char) : Lexer := { s with place := s.place.moveTo rest }

/-! ### Between tokens -/

/-- Whether a key may follow, and the text after spaces, comments and line breaks. Line breaks allow
keys in block collections. Tabs are no spaces where a key may follow in one, and a byte order mark
may begin a line. -/
def skip (inFlow : Bool) :
    (allowsKey inComment : Bool) → (column : Nat) → List Char → Bool × List Char
  | allowsKey, _, _, [] => (allowsKey, [])
  | allowsKey, inComment, column, c :: rest =>
    if isBreak c then skip inFlow (allowsKey || !inFlow) false 0 rest
    else if inComment || c == '#' then skip inFlow allowsKey true column rest
    else if c == ' ' || (c == '\t' && (inFlow || !allowsKey)) || (c == '\ufeff' && column == 0) then
      skip inFlow allowsKey false (column + 1) rest
    else (allowsKey, c :: rest)

/-- The state at the next token. -/
def toToken (s : Lexer) : Lexer :=
  let (allowsKey, rest) := skip s.inFlow s.allowsKey false s.place.column s.place.rest
  { s.moveTo rest with allowsKey := allowsKey }

/-- Whether a token is too far back to begin a key that a colon here would end. -/
def isStale (s : Lexer) (key : PossibleKey) : Bool :=
  key.line < s.place.line || key.offset + keyLimit < s.place.offset

/-- The token that may begin a key, unless it is too far back. One that is required is refused
then. -/
def fresh? (s : Lexer) (key : Option PossibleKey) : Option (Option PossibleKey) :=
  match key with
  | some key => if s.isStale key then (if key.required then none else some none) else some (some key)
  | none => some none

/-- Forgets the tokens that are too far back to begin a key. -/
def forgetStale (s : Lexer) : Option Lexer := do
  return { s with pending := ← s.fresh? s.pending, outer := ← s.outer.mapM s.fresh? }

/-- Ends so many block collections as have columns in a class. -/
def closeBlocks (s : Lexer) (closes : Nat → Bool) : Lexer :=
  if s.inFlow then s
  else
    let closed := s.columns.takeWhile closes
    { s with
      tokens := s.tokens ++ (closed.map fun _ => ([], Token.blockEnd)).toArray
      columns := s.columns.drop closed.length }

/-- Ends the block collections that stand further to the right. -/
def closeDeeper (s : Lexer) : Lexer := s.closeBlocks (s.place.column < ·)

/-! ### Keys -/

/-- Forgets the token that may begin a key, which must not be required to. -/
def dropKey (s : Lexer) : Option Lexer :=
  if s.pending.any PossibleKey.required then none else some { s with pending := none }

/-- Notes that the next token may begin a key. -/
def noteKey (s : Lexer) : Option Lexer :=
  if s.allowsKey then do
    let s ← s.dropKey
    let p := s.place
    let required := !s.inFlow && s.columns.head? == some p.column
    return { s with pending := some ⟨s.tokens.size, required, p.offset, p.line, p.column⟩ }
  else some s

/-- Begins a block collection at a column to the right of the innermost one: its token, if it
begins there. -/
def openBlock (s : Lexer) (column : Nat) (t : Token) : List Token × Lexer :=
  if !s.inFlow && s.least ≤ column then ([t], { s with columns := column :: s.columns })
  else ([], s)

/-- Begins a block collection at the next token, if there is none at its column. -/
def openBlockHere (s : Lexer) (t : Token) : Lexer :=
  let (opened, s) := s.openBlock s.place.column t
  opened.foldl push s

/-- Puts tokens before one of those so far. -/
def insertBefore (s : Lexer) (index : Nat) (ts : List Token) : Lexer :=
  { s with tokens := s.tokens.modify index fun (_, t) => (ts, t) }

/-! ### Tokens -/

/-- A token that is no part of a key, at a mark of a block collection. Its kind must be allowed here
unless it stands in a flow collection. -/
def blockMark (s : Lexer) (opens t : Token) (allowsKey : Bool) (rest : List Char) :
    Option Lexer := do
  if !s.inFlow && !s.allowsKey then none
  let s := if s.inFlow then s else s.openBlockHere opens
  let s ← s.dropKey
  return ({ s with allowsKey := allowsKey }.moveTo rest).push t

/-- The colon before a value. It makes a key of the token before it that may begin one. -/
def valueMark (s : Lexer) (rest : List Char) : Option Lexer :=
  match s.pending with
  | some key =>
    let (opened, s) := s.openBlock key.column .blockMapping
    let s := s.insertBefore key.index (opened ++ [.key])
    some (({ s with pending := none, allowsKey := false }.moveTo rest).push .value)
  | none => do
    if !s.inFlow && !s.allowsKey then none
    let s := s.openBlockHere .blockMapping
    return ({ s with allowsKey := !s.inFlow }.moveTo rest).push .value

/-- The beginning of a flow collection. -/
def openFlow (s : Lexer) (t : Token) (rest : List Char) : Option Lexer := do
  let s ← s.noteKey
  let s := { s with pending := none, outer := s.pending :: s.outer, allowsKey := true }
  return (s.moveTo rest).push t

/-- The end of a flow collection. -/
def closeFlow (s : Lexer) (t : Token) (rest : List Char) : Option Lexer := do
  let s ← s.dropKey
  let s := { s with
    pending := s.outer.headD s.pending, outer := s.outer.drop 1, allowsKey := false }
  return (s.moveTo rest).push t

/-- A comma of a flow collection. -/
def comma (s : Lexer) (rest : List Char) : Option Lexer := do
  let s ← s.dropKey
  return ({ s with allowsKey := true }.moveTo rest).push .comma

/-- A token that may begin a key, and whether a key may follow it. -/
def content (s : Lexer) (t : Token) (allowsKey : Bool) (rest : List Char) : Option Lexer := do
  let s ← s.noteKey
  return ({ s with allowsKey := allowsKey }.moveTo rest).push t

/-- An anchor or an alias, by its name. -/
def name (s : Lexer) (t : String → Token) (cs : List Char) : Option Lexer :=
  let name := cs.takeWhile isNameChar
  let rest := cs.drop name.length
  if !name.isEmpty && (startsBlank rest || rest.head?.any "?:,]\x7d%@`".toList.contains) then
    s.content (t (String.ofList name)) false rest
  else none

def tag (s : Lexer) (cs : List Char) : Option Lexer := do
  let (t, rest) ← TagText.read? cs
  if startsBlank rest || (s.inFlow && rest.head? == some ',') then s.content (.tag t) false rest
  else none

def quotedScalar (s : Lexer) (read : Option (List Char × List Char)) : Option Lexer := do
  let (text, rest) ← read
  s.content (.scalar .quoted (String.ofList text)) false rest

def plainScalar (s : Lexer) (cs : List Char) : Option Lexer := do
  let scalar ← plain s.inFlow s.least .none cs
  s.content (.scalar .plain (String.ofList scalar.text)) scalar.endsLine scalar.rest

def blockScalar (s : Lexer) (style : Style) (cs : List Char) : Option Lexer := do
  let s ← s.dropKey
  let (text, rest) ← block (style == .folded) s.least cs
  return ({ s with allowsKey := true }.moveTo rest).push (.scalar style (String.ofList text))

/-! ### Documents -/

/-- The state before something that stands outside all collections. -/
def outside (s : Lexer) : Option Lexer := do
  let s ← (s.closeBlocks fun _ => true).dropKey
  return { s with allowsKey := false }

/-- A mark that begins or ends a document. -/
def documentMark (s : Lexer) (t : Token) (rest : List Char) : Option Lexer := do
  let s ← s.outside
  return (s.moveTo rest).push t

/-- A number of at most nine digits, and what follows. -/
def versionNumber? (cs : List Char) : Option (Nat × List Char) := do
  let digits := cs.takeWhile Char.isDigit
  if 9 < digits.length then none
  return (← Text.readDigits digits, cs.drop digits.length)

/-- The handle that a directive explains, and what follows it. -/
def directiveHandle? : List Char → Option (String × List Char)
  | '!' :: cs =>
    let name := cs.takeWhile isNameChar
    match cs.drop name.length with
    | '!' :: rest => some (String.ofList ('!' :: name ++ ['!']), rest)
    | rest => if name.isEmpty then some ("!", rest) else none
  | _ => none

/-- A directive after its percent sign, and what follows. -/
def directive? (cs : List Char) : Option (Token × List Char) := do
  let name := cs.takeWhile isNameChar
  let rest := cs.drop name.length
  if !startsBlank rest then none
  let rest := rest.dropWhile isSpace
  match String.ofList name with
  | "YAML" =>
    match ← versionNumber? rest with
    | (major, '.' :: rest) =>
      let (minor, rest) ← versionNumber? rest
      return (.version major minor, rest)
    | _ => none
  | "TAG" =>
    let (handle, rest) ← directiveHandle? rest
    if !rest.head?.any isSpace then none
    let (value, rest) ← filledTag? true (rest.dropWhile isSpace)
    if !startsBlank rest then none
    return (.handle handle value, rest)
  | _ => none

def directive (s : Lexer) (cs : List Char) : Option Lexer := do
  let s ← s.outside
  let (t, rest) ← directive? cs
  let rest ← afterLine? rest
  return (s.moveTo rest).push t

/-! ### Whole texts -/

/-- Reads the token that begins with a character. -/
def token (s : Lexer) (c : Char) (rest : List Char) : Option Lexer :=
  let cs := c :: rest
  if s.place.column = 0 && c = '%' then s.directive rest
  else if s.place.column = 0 && startsMark cs then
    s.documentMark (if c = '-' then .documentStart else .documentEnd) (rest.drop 2)
  else if c = '[' then s.openFlow .flowSequence rest
  else if c = '\x7b' then s.openFlow .flowMapping rest
  else if c = ']' then s.closeFlow .flowSequenceEnd rest
  else if c = '\x7d' then s.closeFlow .flowMappingEnd rest
  else if c = ',' then s.comma rest
  else if c = '-' && startsBlank rest then s.blockMark .blockSequence .item true rest
  else if c = '?' && (s.inFlow || startsBlank rest) then
    s.blockMark .blockMapping .key (!s.inFlow) rest
  else if c = ':' && (s.inFlow || startsBlank rest) then s.valueMark rest
  else if c = '*' then s.name .alias rest
  else if c = '&' then s.name .anchor rest
  else if c = '!' then s.tag rest
  else if c = '|' && !s.inFlow then s.blockScalar .literal rest
  else if c = '>' && !s.inFlow then s.blockScalar .folded rest
  else if c = '\'' then s.quotedScalar (singleQuoted .none rest)
  else if c = '"' then s.quotedScalar (doubleQuoted .none rest)
  else if startsPlain s.inFlow cs then s.plainScalar cs
  else none

/-- Reads all tokens that are left, at most `fuel` of them. -/
def tokensFrom : (fuel : Nat) → Lexer → Option Lexer
  | 0, _ => none
  | fuel + 1, s => do
    let s := (← s.toToken.forgetStale).closeDeeper
    match s.place.rest with
    | [] => s.outside
    | c :: rest => tokensFrom fuel (← s.token c rest)

end Lexer

/-- The tokens of a text. -/
def Token.ofText? (cs : List Char) : Option (List Token) := do
  let s ← Lexer.tokensFrom (cs.length + 1) (.start cs)
  return s.tokens.toList.flatMap fun (before, t) => before ++ [t]

end ClusterProvisioning.Yaml
