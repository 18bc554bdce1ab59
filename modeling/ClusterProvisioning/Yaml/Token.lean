import ClusterProvisioning.Yaml.Scalar
import ClusterProvisioning.Yaml.Tag

/-!
# YAML tokens

The scalars and marks of a YAML text in order. Block collections, which the text marks by
indentation alone, have tokens for their beginning and end.
-/

namespace ClusterProvisioning.Yaml

inductive Token where
  | version (major minor : Nat)
  /-- The prefix that a handle stands for in the next document. -/
  | handle (name : String) (value : List UInt8)
  | documentStart
  | documentEnd
  | blockSequence
  | blockMapping
  | blockEnd
  | flowSequence
  | flowSequenceEnd
  | flowMapping
  | flowMappingEnd
  /-- The mark of an item of a block sequence. -/
  | item
  /-- The comma between the items of a flow collection. -/
  | comma
  | key
  | value
  | anchor (name : String)
  | alias (name : String)
  | tag (text : TagText)
  | scalar (style : Style) (text : String)
  deriving DecidableEq, Repr

end ClusterProvisioning.Yaml
