/-!
# Objects of the cluster

The kinds of objects, and references to single objects by kind, namespace and name.
-/

namespace ClusterProvisioning

/-- The type of an object on the cluster: API group, version, name of the kind, and the plural
under which the API serves it. -/
structure Kind where
  group : String
  version : String
  name : String
  plural : String
  deriving DecidableEq, Repr

namespace Kind

def pod : Kind := ⟨"", "v1", "Pod", "pods"⟩
def service : Kind := ⟨"", "v1", "Service", "services"⟩
def deployment : Kind := ⟨"apps", "v1", "Deployment", "deployments"⟩
def virtualService : Kind :=
  ⟨"networking.istio.io", "v1beta1", "VirtualService", "virtualservices"⟩
def pyTorchJob : Kind := ⟨"kubeflow.org", "v1", "PyTorchJob", "pytorchjobs"⟩
def notebook : Kind := ⟨"kubeflow.org", "v1", "Notebook", "notebooks"⟩
def inferenceService : Kind :=
  ⟨"serving.kserve.io", "v1beta1", "InferenceService", "inferenceservices"⟩
def workflow : Kind := ⟨"argoproj.io", "v1alpha1", "Workflow", "workflows"⟩
def volcanoJob : Kind := ⟨"batch.volcano.sh", "v1alpha1", "Job", "jobs"⟩

/-- The well-known kind with a short name, in any letter case. -/
def ofShortName? (name : String) : Option Kind :=
  match name.map Char.toLower with
  | "pod" | "pods" => some pod
  | "service" | "services" | "svc" => some service
  | "deployment" | "deployments" => some deployment
  | "virtualservice" | "virtualservices" | "route" => some virtualService
  | "pytorchjob" | "pytorchjobs" => some pyTorchJob
  | "notebook" | "notebooks" => some notebook
  | "inferenceservice" | "inferenceservices" => some inferenceService
  | "workflow" | "workflows" => some workflow
  | "volcanojob" | "volcanojobs" => some volcanoJob
  | _ => none

/-- Group and version; the core group has no name of its own. -/
def apiVersion (k : Kind) : String :=
  if k.group = "" then k.version else s!"{k.group}/{k.version}"

/-- Whether a live object of the kind takes a new manifest in place. The fields of a pod that
matter cannot change once it exists, and training jobs ignore changes, so both are replaced by a
delete and a create. -/
def patchableInPlace (k : Kind) : Bool :=
  k ≠ pod && k ≠ pyTorchJob

instance : ToString Kind where
  toString k := if k.group = "" then k.name else s!"{k.name}.{k.group}"

end Kind

/-- A reference to an object that exists, or existed, on the cluster. -/
structure Ref where
  kind : Kind
  ns : String
  name : String
  deriving DecidableEq, Repr

instance : ToString Ref where
  toString r := s!"{r.kind} {r.ns}/{r.name}"

end ClusterProvisioning
