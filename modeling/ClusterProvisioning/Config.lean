import ClusterProvisioning.Document.Decode
import ClusterProvisioning.Report
import ClusterProvisioning.Yaml.Reader

/-!
# Configuration

The static values that plans are built from. Every field has a default, so an empty document is a
valid configuration. A field that is given as null stays null where it may be absent.
-/

namespace ClusterProvisioning

/-- How a session's service is exposed. -/
inductive ServiceType where
  | nodePort
  | clusterIP
  deriving DecidableEq, Repr

instance : ToString ServiceType where
  toString
    | .nodePort => "NodePort"
    | .clusterIP => "ClusterIP"

/-- Interactive notebook sessions. -/
structure SessionConfig where
  ns : String
  image : Option String
  cpu : String
  memory : String
  servicePort : UInt16
  serviceType : ServiceType
  /-- The claim with the workspaces of all owners, each under the owner's name. -/
  workspaceClaim : String
  workspaceRoot : String
  archiveClaim : String
  archiveRoot : String
  routeGateway : String
  routeHost : String
  routeTimeout : String
  externalAddress : String
  nodeSelector : Table String
  schedulerName : Option String
  imagePullSecret : Option String
  /-- Whether pod and service are retracted when the route is not created. -/
  rollbackOnRouteFailure : Bool
  deriving DecidableEq, Repr

/-- Model-serving deployments. -/
structure ServingConfig where
  ns : String
  image : Option String
  replicas : UInt32
  cpu : String
  memory : String
  imagePullPolicy : String
  modelRepository : String
  httpPort : UInt16
  grpcPort : UInt16
  metricsPort : UInt16
  externalAddress : String
  nodeSelector : Table String
  deriving DecidableEq, Repr

/-- Distributed training jobs. -/
structure TrainingConfig where
  ns : String
  image : Option String
  masterReplicas : UInt32
  workerReplicas : UInt32
  cpu : String
  memory : String
  restartPolicy : String
  imagePullPolicy : String
  rendezvousPort : UInt16
  nodeSelector : Table String
  deriving DecidableEq, Repr

structure Config where
  session : SessionConfig
  serving : ServingConfig
  training : TrainingConfig
  deriving DecidableEq, Repr

/-! ### Defaults -/

def SessionConfig.standard : SessionConfig where
  ns := "jupyter"
  image := none
  cpu := "1"
  memory := "2Gi"
  servicePort := 3000
  serviceType := .nodePort
  workspaceClaim := "user-workspace"
  workspaceRoot := "/mnt"
  archiveClaim := "archives"
  archiveRoot := "/archives"
  routeGateway := "kubeflow/kubeflow-gateway"
  routeHost := "*"
  routeTimeout := "300s"
  externalAddress := "127.0.0.1"
  nodeSelector := [("notebook", "true")]
  schedulerName := none
  imagePullSecret := some "hubsecret"
  rollbackOnRouteFailure := false

def ServingConfig.standard : ServingConfig where
  ns := "triton-serving"
  image := none
  replicas := 1
  cpu := "2"
  memory := "8Gi"
  imagePullPolicy := "IfNotPresent"
  modelRepository := "/model"
  httpPort := 8000
  grpcPort := 8001
  metricsPort := 8002
  externalAddress := "127.0.0.1"
  nodeSelector := []

def TrainingConfig.standard : TrainingConfig where
  ns := "train"
  image := none
  masterReplicas := 1
  workerReplicas := 1
  cpu := "4"
  memory := "8Gi"
  restartPolicy := "OnFailure"
  imagePullPolicy := "IfNotPresent"
  rendezvousPort := 29500
  nodeSelector := []

def Config.standard : Config :=
  ⟨.standard, .standard, .standard⟩

/-! ### Reading -/

open Document

def ServiceType.ofDocument? (d : Document) : Option ServiceType :=
  match d.variant? with
  | some "NodePort" => some .nodePort
  | some "ClusterIP" => some .clusterIP
  | _ => none

def SessionConfig.ofDocument? (d : Document) : Option SessionConfig := do
  let fields ← d.fields? ["namespace", "image", "cpu", "memory", "servicePort", "serviceType",
    "workspaceClaim", "workspaceRoot", "archiveClaim", "archiveRoot", "routeGateway", "routeHost",
    "routeTimeout", "externalAddress", "nodeSelector", "schedulerName", "imagePullSecret",
    "rollbackOnRouteFailure"]
  let s := SessionConfig.standard
  return {
    ns := ← fields.withDefault "namespace" string? s.ns
    image := ← fields.withDefault "image" (nullable? string?) s.image
    cpu := ← fields.withDefault "cpu" string? s.cpu
    memory := ← fields.withDefault "memory" string? s.memory
    servicePort := ← fields.withDefault "servicePort" uint16? s.servicePort
    serviceType := ← fields.withDefault "serviceType" ServiceType.ofDocument? s.serviceType
    workspaceClaim := ← fields.withDefault "workspaceClaim" string? s.workspaceClaim
    workspaceRoot := ← fields.withDefault "workspaceRoot" string? s.workspaceRoot
    archiveClaim := ← fields.withDefault "archiveClaim" string? s.archiveClaim
    archiveRoot := ← fields.withDefault "archiveRoot" string? s.archiveRoot
    routeGateway := ← fields.withDefault "routeGateway" string? s.routeGateway
    routeHost := ← fields.withDefault "routeHost" string? s.routeHost
    routeTimeout := ← fields.withDefault "routeTimeout" string? s.routeTimeout
    externalAddress := ← fields.withDefault "externalAddress" string? s.externalAddress
    nodeSelector := ← fields.withDefault "nodeSelector" textTable? s.nodeSelector
    schedulerName := ← fields.withDefault "schedulerName" (nullable? string?) s.schedulerName
    imagePullSecret :=
      ← fields.withDefault "imagePullSecret" (nullable? string?) s.imagePullSecret
    rollbackOnRouteFailure :=
      ← fields.withDefault "rollbackOnRouteFailure" bool? s.rollbackOnRouteFailure }

def ServingConfig.ofDocument? (d : Document) : Option ServingConfig := do
  let fields ← d.fields? ["namespace", "image", "replicas", "cpu", "memory", "imagePullPolicy",
    "modelRepository", "httpPort", "grpcPort", "metricsPort", "externalAddress", "nodeSelector"]
  let s := ServingConfig.standard
  return {
    ns := ← fields.withDefault "namespace" string? s.ns
    image := ← fields.withDefault "image" (nullable? string?) s.image
    replicas := ← fields.withDefault "replicas" uint32? s.replicas
    cpu := ← fields.withDefault "cpu" string? s.cpu
    memory := ← fields.withDefault "memory" string? s.memory
    imagePullPolicy := ← fields.withDefault "imagePullPolicy" string? s.imagePullPolicy
    modelRepository := ← fields.withDefault "modelRepository" string? s.modelRepository
    httpPort := ← fields.withDefault "httpPort" uint16? s.httpPort
    grpcPort := ← fields.withDefault "grpcPort" uint16? s.grpcPort
    metricsPort := ← fields.withDefault "metricsPort" uint16? s.metricsPort
    externalAddress := ← fields.withDefault "externalAddress" string? s.externalAddress
    nodeSelector := ← fields.withDefault "nodeSelector" textTable? s.nodeSelector }

def TrainingConfig.ofDocument? (d : Document) : Option TrainingConfig := do
  let fields ← d.fields? ["namespace", "image", "masterReplicas", "workerReplicas", "cpu",
    "memory", "restartPolicy", "imagePullPolicy", "rendezvousPort", "nodeSelector"]
  let s := TrainingConfig.standard
  return {
    ns := ← fields.withDefault "namespace" string? s.ns
    image := ← fields.withDefault "image" (nullable? string?) s.image
    masterReplicas := ← fields.withDefault "masterReplicas" uint32? s.masterReplicas
    workerReplicas := ← fields.withDefault "workerReplicas" uint32? s.workerReplicas
    cpu := ← fields.withDefault "cpu" string? s.cpu
    memory := ← fields.withDefault "memory" string? s.memory
    restartPolicy := ← fields.withDefault "restartPolicy" string? s.restartPolicy
    imagePullPolicy := ← fields.withDefault "imagePullPolicy" string? s.imagePullPolicy
    rendezvousPort := ← fields.withDefault "rendezvousPort" uint16? s.rendezvousPort
    nodeSelector := ← fields.withDefault "nodeSelector" textTable? s.nodeSelector }

/-- Reads a configuration; missing fields take their defaults. -/
def Config.ofDocument? (d : Document) : Option Config := do
  let fields ← d.fields? ["session", "serving", "training"]
  return {
    session := ← fields.withDefault "session" SessionConfig.ofDocument? .standard
    serving := ← fields.withDefault "serving" ServingConfig.ofDocument? .standard
    training := ← fields.withDefault "training" TrainingConfig.ofDocument? .standard }

/-! ### Checking -/

namespace Config

/-- The ports of a configuration, with the names of their fields. -/
def ports (c : Config) : List (String × UInt16) :=
  [("session.servicePort", c.session.servicePort), ("serving.httpPort", c.serving.httpPort),
    ("serving.grpcPort", c.serving.grpcPort), ("serving.metricsPort", c.serving.metricsPort),
    ("training.rendezvousPort", c.training.rendezvousPort)]

/-- The namespaces of a configuration, with the names of their fields. -/
def namespaces (c : Config) : List (String × String) :=
  [("session.namespace", c.session.ns), ("serving.namespace", c.serving.ns),
    ("training.namespace", c.training.ns)]

/-- The first zero port, else the first empty namespace. -/
def problem? (c : Config) : Option ConfigProblem :=
  match c.ports.find? fun entry => entry.2 = 0 with
  | some (field, _) => some (.zeroPort field)
  | none =>
    match c.namespaces.find? fun entry => entry.2 = "" with
    | some (field, _) => some (.emptyNamespace field)
    | none => none

/-- The configuration itself if it has no problem. -/
def checked (c : Config) : Outcome Config :=
  match c.problem? with
  | some problem => .error (.of (.config problem))
  | none => .ok c

/-- The checked configuration that a document gives. -/
def ofDocument (d : Document) : Outcome Config :=
  match ofDocument? d with
  | some c => c.checked
  | none => .error (.of (.config .malformed))

/-- The checked configuration that a YAML text gives. -/
def ofYaml (text : String) : Outcome Config :=
  match Yaml.read? text with
  | some d => ofDocument d
  | none => .error (.of (.config .malformed))

/-- The configuration in the file at a path, or the standard one if there is no path. What is wrong
with the content of the file is noted with its path. -/
def load (contentOf : String → Option String) : (path : Option String) → Outcome Config
  | none => .ok .standard
  | some path =>
    match contentOf path with
    | some text => (ofYaml text).mapError fun r => r.withNote s!"config file: {path}"
    | none => .error (.of (.config (.unreadable path)))

end Config

/-! ### Writing -/

def SessionConfig.toJson (c : SessionConfig) : Json :=
  .ofMembers [("namespace", .string c.ns), ("image", .ofText? c.image), ("cpu", .string c.cpu),
    ("memory", .string c.memory), ("servicePort", .ofNat c.servicePort.toNat),
    ("serviceType", .string (toString c.serviceType)),
    ("workspaceClaim", .string c.workspaceClaim), ("workspaceRoot", .string c.workspaceRoot),
    ("archiveClaim", .string c.archiveClaim), ("archiveRoot", .string c.archiveRoot),
    ("routeGateway", .string c.routeGateway), ("routeHost", .string c.routeHost),
    ("routeTimeout", .string c.routeTimeout), ("externalAddress", .string c.externalAddress),
    ("nodeSelector", .ofTexts c.nodeSelector), ("schedulerName", .ofText? c.schedulerName),
    ("imagePullSecret", .ofText? c.imagePullSecret),
    ("rollbackOnRouteFailure", .bool c.rollbackOnRouteFailure)]

def ServingConfig.toJson (c : ServingConfig) : Json :=
  .ofMembers [("namespace", .string c.ns), ("image", .ofText? c.image),
    ("replicas", .ofNat c.replicas.toNat), ("cpu", .string c.cpu), ("memory", .string c.memory),
    ("imagePullPolicy", .string c.imagePullPolicy),
    ("modelRepository", .string c.modelRepository), ("httpPort", .ofNat c.httpPort.toNat),
    ("grpcPort", .ofNat c.grpcPort.toNat), ("metricsPort", .ofNat c.metricsPort.toNat),
    ("externalAddress", .string c.externalAddress), ("nodeSelector", .ofTexts c.nodeSelector)]

def TrainingConfig.toJson (c : TrainingConfig) : Json :=
  .ofMembers [("namespace", .string c.ns), ("image", .ofText? c.image),
    ("masterReplicas", .ofNat c.masterReplicas.toNat),
    ("workerReplicas", .ofNat c.workerReplicas.toNat), ("cpu", .string c.cpu),
    ("memory", .string c.memory), ("restartPolicy", .string c.restartPolicy),
    ("imagePullPolicy", .string c.imagePullPolicy),
    ("rendezvousPort", .ofNat c.rendezvousPort.toNat), ("nodeSelector", .ofTexts c.nodeSelector)]

/-- The whole configuration, every field given. -/
def Config.toJson (c : Config) : Json :=
  .ofMembers [("session", c.session.toJson), ("serving", c.serving.toJson),
    ("training", c.training.toJson)]

end ClusterProvisioning
