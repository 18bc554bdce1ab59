import ClusterProvisioning.Plan.Basic

/-!
# Training plans

A training job is one object with a group of primary and a group of worker replicas, alike but for
their number and role.
-/

namespace ClusterProvisioning.Plan.Training

/-- The container of a replica. Without a command or arguments the image decides. -/
def container (config : TrainingConfig) (request : WorkloadRequest) (image : String)
    (resources : ContainerResources) : Json :=
  .object (
    (if request.args.isEmpty then [] else [("args", .ofTextList request.args)]) ++
    (if request.command.isEmpty then [] else [("command", .ofTextList request.command)]) ++
    [("env", .array (envManifest request.env)),
      ("image", .string image),
      ("imagePullPolicy", .string (request.imagePullPolicy.getD config.imagePullPolicy)),
      ("name", .string "pytorch"),
      ("ports", .array [.object [("containerPort", number16 config.rendezvousPort),
        ("name", .string "pytorchjob-port")]]),
      ("resources", resources.manifest),
      ("volumeMounts", .array (volumeMounts 0 request.mounts))])

/-- A group of replicas in a role. -/
def replicaGroup (config : TrainingConfig) (request : WorkloadRequest) (image : String)
    (resources : ContainerResources) (labels : Table String) (role : String) (replicas : UInt32) :
    Json :=
  .object [
    ("replicas", .ofNat replicas.toNat),
    ("restartPolicy", .string (request.restartPolicy.getD config.restartPolicy)),
    ("template", .object [
      ("metadata", .object [
        ("annotations", .object [("replica-role", .string role)]),
        ("labels", .ofTexts labels)]),
      ("spec", .object [
        ("containers", .array [container config request image resources]),
        ("nodeSelector", .ofTexts (config.nodeSelector.extend request.nodeSelector)),
        ("volumes", .array (mountVolumes 0 request.mounts))])])]

def job (config : TrainingConfig) (request : WorkloadRequest) (image name ns : String)
    (resources : ContainerResources) (labels : Table String) : Json :=
  let group := replicaGroup config request image resources labels
  manifestOf .pyTorchJob name ns labels (.object [
    ("pytorchReplicaSpecs", .object [
      ("Master", group "Master" (replicaCount request.replicas.primary config.masterReplicas)),
      ("Worker", group "Worker" (replicaCount request.replicas.worker config.workerReplicas))])])

/-- The labels of a training job; the owner is named when there is one. -/
def labels (request : WorkloadRequest) (name : String) : Outcome (Table String) :=
  let labels := request.labels.insert "app" name
  if Text.isFilled request.owner then do
    return labels.insert "user" (← labelOf "owner" request.owner)
  else .ok labels

/-- The plan of a training job. -/
def build (config : TrainingConfig) (request : WorkloadRequest) : Outcome Plan := do
  let image ← resolveImage request config.image
  let resources ← ContainerResources.resolve request config.cpu config.memory
  let name ← labelOf "name" request.name
  let ns := resolveNamespace request config.ns
  let labels ← labels request name
  return {
    workload := .trainingJob
    units := [.of .pyTorchJob ns name (job config request image name ns resources labels)]
    access := none }

end ClusterProvisioning.Plan.Training
