import ClusterProvisioning.Document.Decode

/-!
# Workload requests

What a caller asks for: a notebook session, a training job or a serving deployment, with its image,
resources, replicas and the rest. A request is read from a document and written back as JSON.
-/

namespace ClusterProvisioning

/-- The kind of workload. -/
inductive WorkloadKind where
  | session
  | trainingJob
  | servingDeployment
  deriving DecidableEq, Repr

instance : ToString WorkloadKind where
  toString
    | .session => "session"
    | .trainingJob => "training_job"
    | .servingDeployment => "serving_deployment"

/-- Replica counts; a count that is absent or zero falls back to the configured one. -/
structure ReplicaCounts where
  primary : Option UInt32
  worker : Option UInt32
  deriving DecidableEq, Repr

/-- A mount of an existing volume claim. -/
structure MountSpec where
  claimName : String
  mountPath : String
  subPath : Option String
  readOnly : Bool
  deriving DecidableEq, Repr

/-- An environment variable. -/
structure EnvVar where
  name : String
  value : String
  deriving DecidableEq, Repr

/-- Resources as the caller wrote them. -/
structure ResourceTexts where
  cpu : Option String
  memory : Option String
  gpu : Option UInt64
  deriving DecidableEq, Repr

/-- A request for one workload. -/
structure WorkloadRequest where
  kind : WorkloadKind
  name : String
  /-- Blank for the configured namespace. -/
  ns : String
  owner : String
  /-- Blank for the configured image. -/
  image : String
  resources : ResourceTexts
  replicas : ReplicaCounts
  command : List String
  args : List String
  mounts : List MountSpec
  ports : List UInt16
  env : List EnvVar
  nodeSelector : Table String
  labels : Table String
  restartPolicy : Option String
  imagePullPolicy : Option String
  deriving DecidableEq, Repr

/-! ### Reading -/

def WorkloadKind.ofDocument? (d : Document) : Option WorkloadKind :=
  match d.variant? with
  | some "session" => some .session
  | some "training_job" => some .trainingJob
  | some "serving_deployment" => some .servingDeployment
  | _ => none

def ReplicaCounts.ofDocument? (d : Document) : Option ReplicaCounts := do
  let fields ← d.fields? ["primary", "worker"]
  return {
    primary := ← fields.optional "primary" Document.uint32?
    worker := ← fields.optional "worker" Document.uint32? }

def MountSpec.ofDocument? (d : Document) : Option MountSpec := do
  let fields ← d.fields? ["claim_name", "mount_path", "sub_path", "read_only"]
  return {
    claimName := ← fields.required "claim_name" Document.string?
    mountPath := ← fields.required "mount_path" Document.string?
    subPath := ← fields.optional "sub_path" Document.string?
    readOnly := ← fields.withDefault "read_only" Document.bool? false }

def EnvVar.ofDocument? (d : Document) : Option EnvVar := do
  let fields ← d.fields? ["name", "value"]
  return {
    name := ← fields.required "name" Document.string?
    value := ← fields.required "value" Document.string? }

def ResourceTexts.ofDocument? (d : Document) : Option ResourceTexts := do
  let fields ← d.fields? ["cpu", "memory", "gpu"]
  return {
    cpu := ← fields.optional "cpu" Document.string?
    memory := ← fields.optional "memory" Document.string?
    gpu := ← fields.optional "gpu" Document.uint64? }

namespace WorkloadRequest

/-- The names of the fields, in order. -/
def fieldNames : List String :=
  ["kind", "name", "namespace", "owner", "image", "resources", "replicas", "command", "args",
    "mounts", "ports", "env", "node_selector", "labels", "restart_policy", "image_pull_policy"]

/-- Reads a request. Kind, name and owner must be given. -/
def ofDocument? (d : Document) : Option WorkloadRequest := do
  let fields ← d.fields? fieldNames
  return {
    kind := ← fields.required "kind" WorkloadKind.ofDocument?
    name := ← fields.required "name" Document.string?
    ns := ← fields.withDefault "namespace" Document.string? ""
    owner := ← fields.required "owner" Document.string?
    image := ← fields.withDefault "image" Document.string? ""
    resources :=
      ← fields.withDefault "resources" ResourceTexts.ofDocument? ⟨none, none, none⟩
    replicas := ← fields.withDefault "replicas" ReplicaCounts.ofDocument? ⟨none, none⟩
    command := ← fields.withDefault "command" (Document.list? Document.string?) []
    args := ← fields.withDefault "args" (Document.list? Document.string?) []
    mounts := ← fields.withDefault "mounts" (Document.list? MountSpec.ofDocument?) []
    ports := ← fields.withDefault "ports" (Document.list? Document.uint16?) []
    env := ← fields.withDefault "env" (Document.list? EnvVar.ofDocument?) []
    nodeSelector := ← fields.withDefault "node_selector" Document.textTable? []
    labels := ← fields.withDefault "labels" Document.textTable? []
    restartPolicy := ← fields.optional "restart_policy" Document.string?
    imagePullPolicy := ← fields.optional "image_pull_policy" Document.string? }

/-- Reads a request from a JSON value. -/
def ofJson? (j : Json) : Option WorkloadRequest := ofDocument? (.ofJson j)

end WorkloadRequest

/-! ### Writing -/

def ReplicaCounts.toJson (r : ReplicaCounts) : Json :=
  let count (n : Option UInt32) : Json := (n.map fun n => Json.ofNat n.toNat).getD .null
  .ofMembers [("primary", count r.primary), ("worker", count r.worker)]

def MountSpec.toJson (m : MountSpec) : Json :=
  .ofMembers [("claim_name", .string m.claimName), ("mount_path", .string m.mountPath),
    ("sub_path", .ofText? m.subPath), ("read_only", .bool m.readOnly)]

def EnvVar.toJson (v : EnvVar) : Json :=
  .ofMembers [("name", .string v.name), ("value", .string v.value)]

def ResourceTexts.toJson (r : ResourceTexts) : Json :=
  .ofMembers [("cpu", .ofText? r.cpu), ("memory", .ofText? r.memory),
    ("gpu", (r.gpu.map fun n => Json.ofNat n.toNat).getD .null)]

/-- The request with every field, defaults filled in. -/
def WorkloadRequest.toJson (r : WorkloadRequest) : Json :=
  .ofMembers [
    ("kind", .string (toString r.kind)),
    ("name", .string r.name),
    ("namespace", .string r.ns),
    ("owner", .string r.owner),
    ("image", .string r.image),
    ("resources", r.resources.toJson),
    ("replicas", r.replicas.toJson),
    ("command", .ofTextList r.command),
    ("args", .ofTextList r.args),
    ("mounts", .array (r.mounts.map MountSpec.toJson)),
    ("ports", .array (r.ports.map fun p => .ofNat p.toNat)),
    ("env", .array (r.env.map EnvVar.toJson)),
    ("node_selector", .ofTexts r.nodeSelector),
    ("labels", .ofTexts r.labels),
    ("restart_policy", .ofText? r.restartPolicy),
    ("image_pull_policy", .ofText? r.imagePullPolicy)]

end ClusterProvisioning
