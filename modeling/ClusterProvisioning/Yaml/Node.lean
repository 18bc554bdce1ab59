import ClusterProvisioning.Document
import ClusterProvisioning.Yaml.Scalar

/-!
# YAML nodes

What is written in a YAML text, with anchors and aliases still as numbers, and the document that it
stands for. An alias may stand inside the node of its own anchor, so an alias is followed only so
deep as documents may be nested.
-/

namespace ClusterProvisioning.Yaml

/-- How many lists and maps may stand inside one another, the outermost included. -/
def depthLimit : Nat := 128

/-- What is written at one place of a YAML text. -/
inductive Node where
  /-- A scalar; an empty plain one stands where nothing is written. -/
  | scalar (style : Style) (text : String)
  | sequence (items : List Node)
  | mapping (entries : List (Node × Node))
  | tagged (tag : Document.Tag) (node : Node)
  | anchored (anchor : Nat) (node : Node)
  | alias (anchor : Nat)
  deriving Repr

namespace Node

/-- The node of what is not written. -/
def nothing : Node := .scalar .plain ""

instance : Inhabited Node := ⟨nothing⟩

/-! ### Anchors -/

mutual

/-- The anchored nodes inside a node, the latest first, before some others. -/
def anchors (others : List (Nat × Node)) : Node → List (Nat × Node)
  | .scalar .. | .alias _ => others
  | .sequence items => itemAnchors others items
  | .mapping entries => entryAnchors others entries
  | .tagged _ node => anchors others node
  | .anchored anchor node => anchors ((anchor, node) :: others) node

/-- The anchored nodes inside a list of nodes. -/
def itemAnchors (others : List (Nat × Node)) : List Node → List (Nat × Node)
  | [] => others
  | node :: rest => itemAnchors (anchors others node) rest

/-- The anchored nodes inside a list of entries. -/
def entryAnchors (others : List (Nat × Node)) : List (Node × Node) → List (Nat × Node)
  | [] => others
  | (key, value) :: rest => entryAnchors (anchors (anchors others key) value) rest

end

/-- What stands under each of some anchors, found by following aliases `depth` times; nothing is
known of an alias that would have to be followed further. -/
def follow {α : Type} (find : List (Nat × α) → Node → α) (anchored : List (Nat × Node)) :
    (depth : Nat) → List (Nat × α)
  | 0 => []
  | depth + 1 =>
    let below := follow find anchored depth
    anchored.map fun (anchor, node) => (anchor, find below node)

/-- What a function that needs to know what stands under each anchor finds for a whole document. -/
def withAliases {α : Type} (find : List (Nat × α) → Node → α) (root : Node) : α :=
  find (follow find (root.anchors []) depthLimit) root

/-! ### Documents -/

mutual

/-- The document of a node, given those of the anchors. -/
def expand (targets : List (Nat × Document)) : Node → Document
  | .scalar .plain s => .plain s
  | .scalar .literal s => .literal s
  | .scalar .quoted s | .scalar .folded s => .string s
  | .sequence items => .sequence (expandItems targets items)
  | .mapping entries => .map (expandEntries targets entries)
  | .tagged tag node => .tagged tag (expand targets node)
  | .anchored _ node => expand targets node
  | .alias anchor => (targets.lookup anchor).getD .unreadable

/-- The documents of a list of nodes. -/
def expandItems (targets : List (Nat × Document)) : List Node → List Document
  | [] => []
  | node :: rest => expand targets node :: expandItems targets rest

/-- The entries of a list of pairs of nodes. -/
def expandEntries (targets : List (Nat × Document)) :
    List (Node × Node) → List (Document × Document)
  | [] => []
  | (key, value) :: rest =>
    (expand targets key, expand targets value) :: expandEntries targets rest

end

/-- The document that a whole text stands for. -/
def document (root : Node) : Document := root.withAliases expand

/-! ### Size -/

mutual

/-- How many scalars, aliases and ends of collections are written in a node. -/
def size : Node → Nat
  | .scalar .. | .alias _ => 1
  | .sequence items => 2 + itemsSize items
  | .mapping entries => 2 + entriesSize entries
  | .tagged _ node | .anchored _ node => size node

/-- The size of a list of nodes. -/
def itemsSize : List Node → Nat
  | [] => 0
  | node :: rest => size node + itemsSize rest

/-- The size of a list of pairs of nodes. -/
def entriesSize : List (Node × Node) → Nat
  | [] => 0
  | (key, value) :: rest => size key + size value + entriesSize rest

end

mutual

/-- How many aliases are followed to read a node, given how many the anchors take. -/
def repeats (targets : List (Nat × Nat)) : Node → Nat
  | .scalar .. => 0
  | .sequence items => itemRepeats targets items
  | .mapping entries => entryRepeats targets entries
  | .tagged _ node | .anchored _ node => repeats targets node
  | .alias anchor => 1 + (targets.lookup anchor).getD 0

/-- How many aliases are followed to read a list of nodes. -/
def itemRepeats (targets : List (Nat × Nat)) : List Node → Nat
  | [] => 0
  | node :: rest => repeats targets node + itemRepeats targets rest

/-- How many aliases are followed to read a list of pairs of nodes. -/
def entryRepeats (targets : List (Nat × Nat)) : List (Node × Node) → Nat
  | [] => 0
  | (key, value) :: rest =>
    repeats targets key + repeats targets value + entryRepeats targets rest

end

/-- Whether all of a document may be read: aliases must not make it much larger than its text. -/
def isModest (root : Node) : Bool := root.withAliases repeats ≤ 100 * root.size

end Node

end ClusterProvisioning.Yaml
