import ClusterProvisioning.Gateway.Http

/-!
# Server addresses

The address of an API server: a scheme, an authority and a path. An address without a scheme is an
authority alone or a path alone.
-/

namespace ClusterProvisioning

structure ServerUrl where
  scheme : Option String
  authority : String
  /-- The path with its query; empty only if there is no scheme. -/
  path : String
  deriving DecidableEq, Repr

instance : ToString ServerUrl where
  toString url :=
    let scheme := match url.scheme with
      | some scheme => s!"{scheme}://"
      | none => ""
    s!"{scheme}{url.authority}{url.path}"

namespace ServerUrl

/-- The most characters of a scheme. -/
def schemeLimit : Nat := 64

/-- Whether an authority takes the character as it is. -/
def isAuthorityChar (c : Char) : Bool :=
  c.isAlphanum || "!$&'()*+,-.:;=@[]_~".toList.contains c

/-- Whether a scheme takes the character. -/
def isSchemeChar (c : Char) : Bool :=
  c.isAlphanum || c == '+' || c == '-' || c == '.' || c == '~'

/-- What is known of an authority up to some character. -/
structure AuthorityScan where
  /-- The colons that may still stand before a port. -/
  colons : Nat
  opened : Bool
  closed : Bool
  /-- Whether there is a percent sign that may still stand in a host. -/
  hasPercent : Bool

/-- Takes the next character of an authority. Brackets stand around a host once. Colons and percent
signs before an at sign belong to the user, and those in brackets to an address. -/
def AuthorityScan.next? (s : AuthorityScan) (c : Char) : Option AuthorityScan :=
  if c = ':' then if 8 ≤ s.colons then none else some { s with colons := s.colons + 1 }
  else if c = '[' then if s.hasPercent || s.opened then none else some { s with opened := true }
  else if c = ']' then
    if !s.opened || s.closed then none
    else some { s with closed := true, colons := 0, hasPercent := false }
  else if c = '@' then some { s with colons := 0, hasPercent := false }
  else if c = '%' then some { s with hasPercent := true }
  else if isAuthorityChar c then some s
  else none

/-- Whether the text is a host with an optional port, after optional user information. -/
def isAuthority (cs : List Char) : Bool :=
  match cs.foldlM AuthorityScan.next? ⟨0, false, false, false⟩ with
  | some s => s.opened == s.closed && s.colons ≤ 1 && !s.hasPercent && cs.getLast? != some '@'
  | none => false

/-- The scheme before a colon and two slashes, and what follows them; none if it is too long. The
common schemes are written in lower case whatever the text has. -/
def splitScheme? (cs : List Char) : Option (Option String × List Char) :=
  match cs.span isSchemeChar with
  | (name, ':' :: '/' :: '/' :: rest) =>
    let lower := String.ofList (name.map Char.toLower)
    if schemeLimit < name.length then none
    else if lower == "http" || lower == "https" then some (some lower, rest)
    else some (some (String.ofList name), rest)
  | _ => some (none, cs)

/-- A path and a query, where an empty path is a slash. -/
def readPath (cs : List Char) : Option String := do
  let path ← Http.checkedPath cs
  return String.ofList (if path.head? == some '/' then path else '/' :: path)

/-- The address that a text writes. -/
def ofText? (s : String) : Option ServerUrl := do
  if Http.lengthLimit < s.utf8ByteSize then none
  match s.toList with
  | [] => none
  | ['*'] => return ⟨none, "", "*"⟩
  | '/' :: rest => return ⟨none, "", ← readPath ('/' :: rest)⟩
  | cs =>
    let (scheme, rest) ← splitScheme? cs
    let authority := rest.takeWhile fun c => !(c == '/' || c == '?' || c == '#')
    let path := rest.drop authority.length
    if authority.isEmpty || !isAuthority authority then none
    match scheme with
    | some scheme => return ⟨some scheme, String.ofList authority, ← readPath path⟩
    | none => if path.isEmpty then return ⟨none, String.ofList authority, ""⟩ else none

end ServerUrl

end ClusterProvisioning
