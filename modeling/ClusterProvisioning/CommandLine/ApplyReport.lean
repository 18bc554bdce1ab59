import ClusterProvisioning.Apply
import ClusterProvisioning.Forms
import ClusterProvisioning.Json.Reader

/-!
# Apply reports

What is printed after a workload has been applied, and read back to find its units again.
-/

namespace ClusterProvisioning

structure ApplyReport where
  admitted : Bool
  created : List Ref
  access : Option String
  error : Option String
  deriving DecidableEq, Repr

namespace ApplyReport

/-- The report of a workload that was not admitted. -/
def denied : ApplyReport := ⟨false, [], none, none⟩

/-- The report of a workload that was, with its error written out. -/
def ofResult (render : Rendering) (r : ApplyResult) : ApplyReport :=
  ⟨true, r.created, r.access, r.error.map render.text⟩

def toJson (r : ApplyReport) : Json :=
  .ofMembers [("admitted", .bool r.admitted), ("created_units", .array (r.created.map Ref.toJson)),
    ("access_endpoint", .ofText? r.access), ("error", .ofText? r.error)]

/-- Reads a report; every field may be missing. -/
def ofDocument? (d : Document) : Option ApplyReport := do
  let fields ← d.fields? ["admitted", "created_units", "access_endpoint", "error"]
  return {
    admitted := ← fields.withDefault "admitted" Document.bool? false
    created := ← fields.withDefault "created_units" (Document.list? Ref.ofDocument?) []
    access := ← fields.optional "access_endpoint" Document.string?
    error := ← fields.optional "error" Document.string? }

/-- The report that a JSON text holds. -/
def read? (text : String) : Option ApplyReport :=
  (Json.readDocument? text).bind ofDocument?

end ApplyReport

end ClusterProvisioning
