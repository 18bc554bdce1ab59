import ClusterProvisioning.Assoc
import ClusterProvisioning.Yaml.Node
import ClusterProvisioning.Yaml.Token

/-!
# The grammar of YAML

The nodes that tokens write. Where a node may be left out, nothing stands for it. An anchor is
numbered by how many names were anchored before it in the document, so an anchor that takes a name
again leaves its number to the next new name as well.
-/

namespace ClusterProvisioning.Yaml

/-- The tokens ahead, and the numbers of the anchors so far. -/
structure TokenReader where
  tokens : List Token
  anchors : Assoc String Nat

namespace TokenReader

def drop (r : TokenReader) (n : Nat) : TokenReader := { r with tokens := r.tokens.drop n }

def next? (r : TokenReader) : Option Token := r.tokens.head?

/-- Whether the next token is one of some. -/
def isAt (r : TokenReader) (ts : List Token) : Bool := r.next?.any ts.contains

/-- The reader after the token that must come next. -/
def after? (r : TokenReader) (t : Token) : Option TokenReader :=
  if r.isAt [t] then some (r.drop 1) else none

/-- Gives the next number to an anchor. -/
def anchor (r : TokenReader) (name : String) : TokenReader × Nat :=
  let n := r.anchors.length
  ({ r with anchors := r.anchors.put name n }, n)

/-- What a node is called. -/
structure Properties where
  anchor : Option String
  tag : Option TagText

/-- The anchor and the tag before a node, in either order. -/
def properties (r : TokenReader) : Properties × TokenReader :=
  match r.tokens with
  | .anchor name :: .tag text :: _ | .tag text :: .anchor name :: _ =>
    (⟨some name, some text⟩, r.drop 2)
  | .anchor name :: _ => (⟨some name, none⟩, r.drop 1)
  | .tag text :: _ => (⟨none, some text⟩, r.drop 1)
  | _ => (⟨none, none⟩, r)

/-! ### Nodes -/

mutual

/-- A node. Block collections may stand in block collections alone, and a sequence that is not
indented only in a mapping. -/
def node (prefixes : TagPrefixes) :
    (fuel : Nat) → (inBlock unindented : Bool) → TokenReader → Option (Node × TokenReader)
  | 0, _, _, _ => none
  | fuel + 1, inBlock, unindented, r => do
    if let some (.alias name) := r.next? then
      return (.alias (← r.anchors.get? name), r.drop 1)
    let (p, r) := r.properties
    let tag ← match p.tag with
      | some text => (text.bytes? prefixes).map some
      | none => some none
    let named (r : TokenReader) : TokenReader × (Node → Node) :=
      match p.anchor with
      | some name =>
        let (r, n) := r.anchor name
        (r, .anchored n)
      | none => (r, id)
    let (r, anchored) := named r
    let tagged (node : Node) : Node := (tag.map fun bytes => Node.tagged (tagOfBytes bytes) node).getD node
    let (node, r) ← match r.next? with
      | some (.scalar style text) =>
        let node := Node.scalar style text
        some (if tag == some "!".toUTF8.toList then node else tagged node, r.drop 1)
      | some .flowSequence =>
        (flowItems prefixes fuel true (r.drop 1)).map fun (items, r) =>
          (tagged (.sequence items), r)
      | some .flowMapping =>
        (flowEntries prefixes fuel true (r.drop 1)).map fun (entries, r) =>
          (tagged (.mapping entries), r)
      | some .blockSequence =>
        if inBlock then
          (blockItems prefixes fuel (r.drop 1)).map fun (items, r) => (tagged (.sequence items), r)
        else none
      | some .blockMapping =>
        if inBlock then
          (blockEntries prefixes fuel (r.drop 1)).map fun (entries, r) =>
            (tagged (.mapping entries), r)
        else none
      | next =>
        if unindented && next == some .item then
          (unindentedItems prefixes fuel r).map fun (items, r) => (tagged (.sequence items), r)
        else if p.anchor.isSome || p.tag.isSome then some (tagged .nothing, r)
        else none
    return (anchored node, r)

/-- A node, or nothing if the next token is one of some. -/
def nodeUnless (prefixes : TagPrefixes) :
    (fuel : Nat) → (inBlock unindented : Bool) → List Token → TokenReader →
      Option (Node × TokenReader)
  | 0, _, _, _, _ => none
  | fuel + 1, inBlock, unindented, ends, r =>
    if r.isAt ends then some (.nothing, r) else node prefixes fuel inBlock unindented r

/-- The value of an entry, if a colon comes before it. -/
def entryValue (prefixes : TagPrefixes) :
    (fuel : Nat) → (inBlock : Bool) → List Token → TokenReader → Option (Node × TokenReader)
  | 0, _, _, _ => none
  | fuel + 1, inBlock, ends, r =>
    if r.isAt [.value] then nodeUnless prefixes fuel inBlock inBlock ends (r.drop 1)
    else some (.nothing, r)

/-- The items of a block sequence. -/
def blockItems (prefixes : TagPrefixes) :
    (fuel : Nat) → TokenReader → Option (List Node × TokenReader)
  | 0, _ => none
  | fuel + 1, r => do
    if r.isAt [.blockEnd] then return ([], r.drop 1)
    let (item, r) ← nodeUnless prefixes fuel true false [.item, .blockEnd] (← r.after? .item)
    let (items, r) ← blockItems prefixes fuel r
    return (item :: items, r)

/-- The items of a sequence that is not indented, which ends where no item follows. -/
def unindentedItems (prefixes : TagPrefixes) :
    (fuel : Nat) → TokenReader → Option (List Node × TokenReader)
  | 0, _ => none
  | fuel + 1, r => do
    if !r.isAt [.item] then return ([], r)
    let (item, r) ← nodeUnless prefixes fuel true false [.item, .key, .value, .blockEnd] (r.drop 1)
    let (items, r) ← unindentedItems prefixes fuel r
    return (item :: items, r)

/-- The entries of a block mapping. -/
def blockEntries (prefixes : TagPrefixes) :
    (fuel : Nat) → TokenReader → Option (List (Node × Node) × TokenReader)
  | 0, _ => none
  | fuel + 1, r => do
    if r.isAt [.blockEnd] then return ([], r.drop 1)
    let ends := [.key, .value, .blockEnd]
    let (key, r) ← nodeUnless prefixes fuel true true ends (← r.after? .key)
    let (value, r) ← entryValue prefixes fuel true ends r
    let (entries, r) ← blockEntries prefixes fuel r
    return ((key, value) :: entries, r)

/-- The items of a flow sequence. An item with a key is a mapping of one entry; where nothing is
written for that key, the token after it is passed over. -/
def flowItems (prefixes : TagPrefixes) :
    (fuel : Nat) → (isFirst : Bool) → TokenReader → Option (List Node × TokenReader)
  | 0, _, _ => none
  | fuel + 1, isFirst, r => do
    if r.isAt [.flowSequenceEnd] then return ([], r.drop 1)
    let r ← if isFirst then some r else r.after? .comma
    if r.isAt [.flowSequenceEnd] then return ([], r.drop 1)
    let (item, r) ←
      if r.isAt [.key] then do
        let r := r.drop 1
        let (key, r) ←
          if r.isAt [.value, .comma, .flowSequenceEnd] then some (Node.nothing, r.drop 1)
          else node prefixes fuel false false r
        let (value, r) ← entryValue prefixes fuel false [.comma, .flowSequenceEnd] r
        some (Node.mapping [(key, value)], r)
      else node prefixes fuel false false r
    let (items, r) ← flowItems prefixes fuel false r
    return (item :: items, r)

/-- The entries of a flow mapping. A node without a question mark or a colon is a key. -/
def flowEntries (prefixes : TagPrefixes) :
    (fuel : Nat) → (isFirst : Bool) → TokenReader → Option (List (Node × Node) × TokenReader)
  | 0, _, _ => none
  | fuel + 1, isFirst, r => do
    if r.isAt [.flowMappingEnd] then return ([], r.drop 1)
    let r ← if isFirst then some r else r.after? .comma
    if r.isAt [.flowMappingEnd] then return ([], r.drop 1)
    let (key, value, r) ←
      if r.isAt [.key] then do
        let (key, r) ←
          nodeUnless prefixes fuel false false [.value, .comma, .flowMappingEnd] (r.drop 1)
        let (value, r) ← entryValue prefixes fuel false [.comma, .flowMappingEnd] r
        some (key, value, r)
      else do
        let (key, r) ← node prefixes fuel false false r
        some (key, Node.nothing, r)
    let (entries, r) ← flowEntries prefixes fuel false r
    return ((key, value) :: entries, r)

end

/-! ### Documents -/

/-- What the directives before a document say: the prefixes of its handles, each handle once, and no
version but the two known ones, once. -/
def directives (prefixes : TagPrefixes) (hasVersion : Bool) :
    List Token → Option (TagPrefixes × List Token)
  | .version major minor :: rest =>
    if hasVersion || major ≠ 1 || (minor ≠ 1 && minor ≠ 2) then none
    else directives prefixes true rest
  | .handle name value :: rest =>
    if (prefixes.map (·.1)).contains name then none
    else directives ((name, value) :: prefixes) hasVersion rest
  | ts => some (prefixes, ts)

/-- Whether a token begins or ends a document. -/
def isBoundary : Token → Bool
  | .version .. | .handle .. | .documentStart | .documentEnd => true
  | _ => false

/-- The nodes of the documents that tokens write, at most `fuel` of them. Only the first document
may lack its mark. -/
def documents : (fuel : Nat) → (isFirst : Bool) → List Token → Option (List Node)
  | 0, _, _ => none
  | fuel + 1, isFirst, ts => do
    let ts := if isFirst then ts else ts.dropWhile (· == .documentEnd)
    let limit := 4 * ts.length + 4
    match ts with
    | [] => return []
    | first :: _ =>
      let (root, r) ←
        if isFirst && (!isBoundary first || first == .documentEnd) then
          node standardPrefixes limit true false ⟨ts, []⟩
        else do
          let (prefixes, ts) ← directives [] false ts
          let r ← TokenReader.after? ⟨ts, []⟩ .documentStart
          if r.next?.all isBoundary then some (Node.nothing, r)
          else node (prefixes ++ standardPrefixes) limit true false r
      let rest := if r.isAt [.documentEnd] then r.tokens.drop 1 else r.tokens
      return root :: (← documents fuel false rest)

end TokenReader

/-- The nodes of the documents of a text. -/
def Node.ofTokens? (ts : List Token) : Option (List Node) :=
  TokenReader.documents (ts.length + 2) true ts

end ClusterProvisioning.Yaml
