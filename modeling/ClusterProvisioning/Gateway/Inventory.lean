import ClusterProvisioning.Gateway.Basic
import ClusterProvisioning.Gateway.Schema.Node
import ClusterProvisioning.Gateway.Schema.Pod
import ClusterProvisioning.Json.Path

/-!
# Inventory

Nodes and pods of an API server as admission sees them: what a node can allocate and where it is
reached, and what the containers of a pod request in sum.
-/

namespace ClusterProvisioning.Inventory

/-- The items of a list, each read by a schema. A list has metadata; null items are none. -/
def items? (item : Schema) (d : Document) : Option (List Json) := do
  let fields ← d.fields? ["metadata", "items"]
  let _ ← fields.required "metadata" Schema.listMetadata.read?
  let items ← fields.required "items" (Document.nullable? (Document.list? item.read?))
  return items.getD []

/-! ### Amounts -/

/-- The amount of one resource in a table of quantities; zero if it is not there. -/
def amount (table : Json) (resource : String) (read : String → Except QuantityError UInt64) :
    Except (Report GatewayError) UInt64 :=
  match (table.member? resource).bind Json.text? with
  | some text => (read text).mapError fun e =>
      .above (.invalidObject "unparseable resource quantity") (.of e)
  | none => .ok 0

/-- The amounts in a table of quantities. -/
def resources (table : Json) : Except (Report GatewayError) Resources := do
  return {
    cpuMillis := ← amount table "cpu" Quantity.cpuMillis
    memoryBytes := ← amount table "memory" Quantity.memoryBytes
    gpus := ← amount table gpuResource Quantity.count }

def textAt (j : Json) (path : List String) : String :=
  ((j.at? path).bind Json.text?).getD ""

/-- The items of the list at a path, none if there is no list. -/
def itemsAt (j : Json) (path : List String) : List Json :=
  ((j.at? path).bind Json.items?).getD []

/-- A node by its name, its first internal address, and what it can allocate. -/
def nodeView (j : Json) : Except (Report GatewayError) NodeView := do
  let name := textAt j ["metadata", "name"]
  let allocatable ← match j.at? ["status", "allocatable"] with
    | some table => (resources table).mapError fun r => r.withNote s!"node {name} allocatable"
    | none => .ok .zero
  let internal := (itemsAt j ["status", "addresses"]).find? fun address =>
    textAt address ["type"] = "InternalIP"
  return {
    name := name
    internalAddress := internal.map fun address => textAt address ["address"]
    allocatable := allocatable }

/-- Adds what a container of a pod requests. -/
def addContainer (podName : String) (sum : Resources) (j : Json) :
    Except (Report GatewayError) Resources :=
  match j.at? ["resources", "requests"] with
  | some table => do
    let name := textAt j ["name"]
    let requested ← (resources table).mapError fun r =>
      r.withNote s!"pod {podName} container {name}"
    return sum + requested
  | none => .ok sum

/-- What the containers of a pod on a node request. -/
def podFootprint (node : String) (j : Json) : Except (Report GatewayError) PodFootprint := do
  let podName := textAt j ["metadata", "name"]
  let requested ← (itemsAt j ["spec", "containers"]).foldlM (addContainer podName) .zero
  return ⟨node, requested⟩

end ClusterProvisioning.Inventory
