import ClusterProvisioning.Config
import ClusterProvisioning.Gateway.Manifest
import ClusterProvisioning.Resources
import ClusterProvisioning.Text.Label
import ClusterProvisioning.Workload

/-!
# Plans

The ordered objects that make up one workload, what to do when one of them is not created, and how
callers reach the workload. The parts that all kinds of plans share stand here too.
-/

namespace ClusterProvisioning

/-- What happens to the units created so far when a unit is not created. -/
inductive FailurePolicy where
  /-- They are deleted in reverse order. -/
  | rollBackCreated
  /-- They stay, and the caller tears them down. -/
  | keepCreated
  deriving DecidableEq, Repr

instance : ToString FailurePolicy where
  toString
    | .rollBackCreated => "RollBackCreated"
    | .keepCreated => "KeepCreated"

/-- One object to create. -/
structure PlanUnit where
  kind : Kind
  ns : String
  name : String
  manifest : Json
  /-- The object to delete to undo the unit, if it can be undone. -/
  rollback : Option Ref
  onFailure : FailurePolicy
  deriving Repr

namespace PlanUnit

def ref (u : PlanUnit) : Ref := ⟨u.kind, u.ns, u.name⟩

/-- A unit that is undone by deleting its object. -/
def of (kind : Kind) (ns name : String) (manifest : Json) : PlanUnit where
  kind := kind
  ns := ns
  name := name
  manifest := manifest
  rollback := some ⟨kind, ns, name⟩
  onFailure := .rollBackCreated

end PlanUnit

/-- How callers reach a workload. -/
inductive Access where
  /-- Known in advance. -/
  | url (url : String)
  /-- A port that the cluster gives to a service, or the fallback where it cannot be read. -/
  | nodePort (address : String) (service : Ref) (fallback : UInt16)
  deriving DecidableEq, Repr

/-- The units of a workload, in the order of their creation. -/
structure Plan where
  workload : WorkloadKind
  units : List PlanUnit
  access : Option Access
  deriving Repr

def Plan.refs (p : Plan) : List Ref := p.units.map PlanUnit.ref

/-! ### Resources of a container -/

/-- A text that has a character other than blanks. -/
def filled? (s : Option String) : Option String := s.filter Text.isFilled

/-- The resources of each container of a plan, as texts of the manifest and as amounts. -/
structure ContainerResources where
  cpu : String
  memory : String
  gpu : UInt64
  amount : Resources
  deriving DecidableEq, Repr

namespace ContainerResources

/-- The cpu that a text writes, for a request that asks for it. -/
def requestedCpu (text : String) : Outcome UInt64 :=
  (Quantity.cpuMillis text).mapError fun e => .above (.validation (.invalidCpu text)) (.of e)

/-- The memory that a text writes, for a request that asks for it. -/
def requestedMemory (text : String) : Outcome UInt64 :=
  (Quantity.memoryBytes text).mapError fun e =>
    .above (.validation (.invalidMemory text)) (.of e)

/-- The resources of a request; blank texts fall back to the given ones. -/
def resolve (request : WorkloadRequest) (cpu memory : String) : Outcome ContainerResources := do
  let cpu := (filled? request.resources.cpu).getD cpu
  let memory := (filled? request.resources.memory).getD memory
  let gpu := request.resources.gpu.getD 0
  let cpuMillis ← requestedCpu cpu
  let memoryBytes ← requestedMemory memory
  return {
    cpu := Text.trim cpu
    memory := Text.trim memory
    gpu := gpu
    amount := ⟨cpuMillis, memoryBytes, gpu⟩ }

/-- The amounts by resource name. GPUs appear only when there are some. -/
def amounts (r : ContainerResources) : Json :=
  .object ([("cpu", .string r.cpu), ("memory", .string r.memory)] ++
    if r.gpu = 0 then [] else [(gpuResource, .string (toString r.gpu.toNat))])

/-- The resources of a container: its limits are its requests. -/
def manifest (r : ContainerResources) : Json :=
  .object [("limits", r.amounts), ("requests", r.amounts)]

end ContainerResources

/-! ### Fields that all plans share -/

namespace Plan

/-- The image of a request, else the configured one. -/
def resolveImage (request : WorkloadRequest) (configured : Option String) : Outcome String :=
  match (filled? (some request.image)).or (filled? configured) with
  | some image => .ok (Text.trim image)
  | none => .error (.of (.validation .imageMissing))

/-- The namespace of a request, else the configured one. -/
def resolveNamespace (request : WorkloadRequest) (configured : String) : String :=
  (filled? (some request.ns)).getD configured

/-- The label of a field of a request. -/
def labelOf (field raw : String) : Outcome String :=
  match Text.label? raw with
  | some label => .ok label
  | none => .error (.of (.validation (.unusableName field raw)))

/-- A requested replica count, unless it is zero. -/
def replicaCount (requested : Option UInt32) (configured : UInt32) : UInt32 :=
  (requested.filter fun n => 0 < n).getD configured

def number16 (n : UInt16) : Json := .ofNat n.toNat

def envManifest (env : List EnvVar) : List Json :=
  env.map fun v => .object [("name", .string v.name), ("value", .string v.value)]

/-- An environment variable that shows a field of the pod. -/
def fieldEnv (name path : String) : Json :=
  .object [("name", .string name),
    ("valueFrom", .object [("fieldRef", .object [("fieldPath", .string path)])])]

/-- The name of the volume of the mount at a position. -/
def mountVolumeName (index : Nat) : String := s!"mount-{index}"

/-- A volume that is an existing claim. -/
def claimVolume (name claim : String) : Json :=
  .object [("name", .string name),
    ("persistentVolumeClaim", .object [("claimName", .string claim)])]

/-- The volumes of requested mounts, the first of them at the given position. -/
def mountVolumes (index : Nat) : List MountSpec → List Json
  | [] => []
  | m :: rest => claimVolume (mountVolumeName index) m.claimName :: mountVolumes (index + 1) rest

/-- The volume mounts of requested mounts, the first of them at the given position. -/
def volumeMounts (index : Nat) : List MountSpec → List Json
  | [] => []
  | m :: rest =>
    .object ([("mountPath", .string m.mountPath), ("name", .string (mountVolumeName index)),
      ("readOnly", .bool m.readOnly)] ++ (m.subPath.map fun p => ("subPath", .string p)).toList) ::
      volumeMounts (index + 1) rest

/-- The metadata of an object of a plan. -/
def metadata (name ns : String) (labels : Table String) : Json :=
  .object [("labels", .ofTexts labels), ("name", .string name), ("namespace", .string ns)]

/-- The manifest of an object of a plan. -/
def manifestOf (kind : Kind) (name ns : String) (labels : Table String) (spec : Json) : Json :=
  .object [("apiVersion", .string kind.apiVersion), ("kind", .string kind.name),
    ("metadata", metadata name ns labels), ("spec", spec)]

end Plan

end ClusterProvisioning
