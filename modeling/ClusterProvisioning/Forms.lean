import ClusterProvisioning.Document.Decode
import ClusterProvisioning.Object
import ClusterProvisioning.Resources
import ClusterProvisioning.Status

/-!
# JSON forms

How references, amounts and the inventory are written in JSON, and read back.
-/

namespace ClusterProvisioning

/-! ### References -/

def Kind.toJson (k : Kind) : Json :=
  .ofMembers [("group", .string k.group), ("version", .string k.version), ("kind", .string k.name),
    ("plural", .string k.plural)]

def Kind.ofDocument? (d : Document) : Option Kind := do
  let fields ← d.fields? ["group", "version", "kind", "plural"]
  return {
    group := ← fields.required "group" Document.string?
    version := ← fields.required "version" Document.string?
    name := ← fields.required "kind" Document.string?
    plural := ← fields.required "plural" Document.string? }

def Ref.toJson (r : Ref) : Json :=
  .ofMembers [("kind", r.kind.toJson), ("namespace", .string r.ns), ("name", .string r.name)]

def Ref.ofDocument? (d : Document) : Option Ref := do
  let fields ← d.fields? ["kind", "namespace", "name"]
  return {
    kind := ← fields.required "kind" Kind.ofDocument?
    ns := ← fields.required "namespace" Document.string?
    name := ← fields.required "name" Document.string? }

/-! ### Amounts -/

def Resources.toJson (r : Resources) : Json :=
  .ofMembers [("cpu_milli_cores", .ofNat r.cpuMillis.toNat),
    ("memory_bytes", .ofNat r.memoryBytes.toNat), ("gpu_units", .ofNat r.gpus.toNat)]

def Resources.ofDocument? (d : Document) : Option Resources := do
  let fields ← d.fields? ["cpu_milli_cores", "memory_bytes", "gpu_units"]
  return {
    cpuMillis := ← fields.required "cpu_milli_cores" Document.uint64?
    memoryBytes := ← fields.required "memory_bytes" Document.uint64?
    gpus := ← fields.required "gpu_units" Document.uint64? }

/-! ### Inventory -/

def NodeView.toJson (n : NodeView) : Json :=
  .ofMembers [("name", .string n.name), ("internal_address", .ofText? n.internalAddress),
    ("allocatable", n.allocatable.toJson)]

def NodeView.ofDocument? (d : Document) : Option NodeView := do
  let fields ← d.fields? ["name", "internal_address", "allocatable"]
  return {
    name := ← fields.required "name" Document.string?
    internalAddress := ← fields.optional "internal_address" Document.string?
    allocatable := ← fields.required "allocatable" Resources.ofDocument? }

def PodFootprint.toJson (p : PodFootprint) : Json :=
  .ofMembers [("node_name", .string p.node), ("requested", p.requested.toJson)]

def PodFootprint.ofDocument? (d : Document) : Option PodFootprint := do
  let fields ← d.fields? ["node_name", "requested"]
  return {
    node := ← fields.required "node_name" Document.string?
    requested := ← fields.required "requested" Resources.ofDocument? }

/-! ### Status -/

/-- A status token with its phase. -/
def Status.toJson (s : Status) : Json :=
  .ofMembers [("status", .string s.token), ("phase", .string (toString s.phase))]

end ClusterProvisioning
