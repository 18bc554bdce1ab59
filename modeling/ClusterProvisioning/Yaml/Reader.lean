import ClusterProvisioning.Document.Untyped
import ClusterProvisioning.Yaml.Grammar
import ClusterProvisioning.Yaml.Lexer

/-!
# Reading YAML

The documents of a YAML text, either as they are written, for a reader who knows what they must be,
or in full before their types are known. A text without any document is one that says nothing.
-/

namespace ClusterProvisioning.Yaml

/-- Whether the character may stand in a text. -/
def isTextChar (c : Char) : Bool :=
  let n := c.toNat
  n == 0x09 || n == 0x0a || n == 0x0d || (0x20 ≤ n && n ≤ 0x7e) || n == 0x85 ||
    (0xa0 ≤ n && n ≤ 0xfffd) || 0x10000 ≤ n

/-- The nodes of the documents of a text. -/
def nodes? (s : String) : Option (List Node) := do
  if s.toList.all isTextChar then
    match ← Node.ofTokens? (← Token.ofText? (withLineFeeds s.toList)) with
    | [] => return [.nothing]
    | nodes => return nodes
  else none

/-- The only document of a text. -/
def read? (s : String) : Option Document := do
  match ← nodes? s with
  | [root] => some root.document
  | _ => none

/-- All of a document, read before its type is known. -/
def Node.value? (root : Node) : Option Document :=
  if root.isModest then root.document.untyped? depthLimit else none

/-- The documents of a text, each read before its type is known. -/
def values? (s : String) : Option (List Document) := do
  (← nodes? s).mapM Node.value?

end ClusterProvisioning.Yaml
