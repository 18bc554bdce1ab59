import ClusterProvisioning.Object
import ClusterProvisioning.Quantity

/-!
# Errors

What can go wrong, by the layer that says so: the gateway to the cluster, the reading of a status,
and provisioning itself. A denied request is no error but an answer.
-/

namespace ClusterProvisioning

/-- Why there is no connection to a cluster. -/
inductive ConnectionProblem where
  | unreadableFile (path : String)
  | unusableFile (path : String)
  | unknownContext (context : String)
  | nothingFound
  | unusableCredentials
  deriving DecidableEq, Repr

def ConnectionProblem.message : ConnectionProblem → String
  | .unreadableFile path => s!"Failed to read kubeconfig file: {path}"
  | .unusableFile path => s!"Failed to create config from kubeconfig: {path}"
  | .unknownContext context => s!"Failed to load kubeconfig context {Text.quote context}"
  | .nothingFound => "Failed to infer Kubernetes config"
  | .unusableCredentials => "Failed to create Kubernetes client"

/-- A failed operation of a cluster gateway. -/
inductive GatewayError where
  | notFound (target : Ref)
  | alreadyExists (target : Ref)
  | connectionFailed (problem : ConnectionProblem)
  | transport (problem : String)
  | invalidObject (problem : String)
  deriving DecidableEq, Repr

namespace GatewayError

def message : GatewayError → String
  | .notFound target => s!"{target} not found"
  | .alreadyExists target => s!"{target} already exists"
  | .connectionFailed problem => s!"Failed to connect to Kubernetes API: {problem.message}"
  | .transport problem => s!"Cluster API request failed: {problem}"
  | .invalidObject problem => s!"Invalid object: {problem}"

def isNotFound : GatewayError → Bool
  | .notFound _ => true
  | _ => false

end GatewayError

/-- What a raw status lacks that its strategy requires. -/
inductive ShapeError where
  | phaseNotString
  | conditionsNotList
  | conditionsNotFound
  | conditionsEmpty
  | noConditions
  | lastConditionNotMap
  | firstConditionNotMap
  | conditionTypeNotString
  | conditionTypeNotFound
  | nodesNotMap
  | nodeNotMap
  | nodePhaseNotString
  | statePhaseNotString
  /-- What a strategy of the caller misses. -/
  | other (text : String)
  deriving DecidableEq, Repr

def ShapeError.message : ShapeError → String
  | .phaseNotString => "status.phase is not a string"
  | .conditionsNotList => "status.conditions is not a list"
  | .conditionsNotFound => "status.conditions not found"
  | .conditionsEmpty => "status.conditions is empty"
  | .noConditions => "no conditions found"
  | .lastConditionNotMap => "last condition is not a map"
  | .firstConditionNotMap => "first condition is not a map"
  | .conditionTypeNotString => "condition type is not a string"
  | .conditionTypeNotFound => "condition type not found"
  | .nodesNotMap => "status.nodes is not a map"
  | .nodeNotMap => "workflow node entry is not a map"
  | .nodePhaseNotString => "workflow node phase is not a string"
  | .statePhaseNotString => "status.state.phase is not a string"
  | .other text => text

/-- Why a request is refused before it reaches the cluster. -/
inductive Refusal where
  | imageMissing
  | invalidCpu (text : String)
  | invalidMemory (text : String)
  | unusableName (field raw : String)
  | sessionPortZero
  | noSessionPod
  | noSessionService
  | servicePortZero
  | noSessionContainer
  deriving DecidableEq, Repr

def Refusal.message : Refusal → String
  | .imageMissing => "image must not be empty"
  | .invalidCpu text => s!"invalid cpu quantity {Text.quote text}"
  | .invalidMemory text => s!"invalid memory quantity {Text.quote text}"
  | .unusableName field raw =>
    s!"{field} {Text.quote raw} does not contain any valid name characters"
  | .sessionPortZero => "session port must be non-zero"
  | .noSessionPod => "no session pod among the units"
  | .noSessionService => "no session service among the units"
  | .servicePortZero => "service port must be non-zero"
  | .noSessionContainer => "session pod has no container"

/-- A step of provisioning that the cluster did not carry out. -/
inductive ClusterStep where
  | listNodes
  | listPods (node : String)
  | create (target : Ref)
  | delete (target : Ref)
  | patch (target : Ref)
  | recreate (target : Ref)
  | get (target : Ref)
  deriving DecidableEq, Repr

def ClusterStep.message : ClusterStep → String
  | .listNodes => "failed to list nodes"
  | .listPods node => s!"failed to list pods on node {node}"
  | .create target => s!"failed to create {target}"
  | .delete target => s!"failed to delete {target}"
  | .patch target => s!"failed to patch {target}"
  | .recreate target => s!"failed to recreate {target}"
  | .get target => s!"failed to get {target}"

/-- What is wrong with a configuration. -/
inductive ConfigProblem where
  | unreadable (path : String)
  | malformed
  | zeroPort (field : String)
  | emptyNamespace (field : String)
  | auditPathWithoutName (path : String)
  deriving DecidableEq, Repr

def ConfigProblem.message : ConfigProblem → String
  | .unreadable path => s!"failed to read config file {path}"
  | .malformed => "failed to parse provisioner config"
  | .zeroPort field => s!"{field} must be a non-zero port"
  | .emptyNamespace field => s!"{field} must not be empty"
  | .auditPathWithoutName path => s!"audit log path {path} has no file name"

/-- An error of the provisioner. -/
inductive ProvisionError where
  /-- The request is refused before any change to the cluster. -/
  | validation (refusal : Refusal)
  | transport (step : ClusterStep)
  /-- A unit was not created after earlier units of its plan had been. -/
  | partialProvision (unit : Ref)
  /-- The compensating delete of a created unit failed, and the object is orphaned. -/
  | rollbackFailed (unit : Ref)
  | statusShape (kind : Kind) (problem : ShapeError)
  /-- The caller cancelled after this number of units had been created. -/
  | cancelled (created : Nat)
  | config (problem : ConfigProblem)
  deriving DecidableEq, Repr

def ProvisionError.message : ProvisionError → String
  | .validation refusal => s!"Invalid workload request: {refusal.message}"
  | .transport step => s!"Cluster request failed: {step.message}"
  | .partialProvision unit => s!"Failed to create {unit}"
  | .rollbackFailed unit => s!"Failed to roll back {unit}"
  | .statusShape kind problem => s!"Malformed status for {kind}: {problem.message}"
  | .cancelled created => s!"Provisioning cancelled after creating {created} unit(s)"
  | .config problem => s!"Configuration error: {problem.message}"

end ClusterProvisioning
