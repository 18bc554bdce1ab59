import ClusterProvisioning.Plan.Basic

/-!
# Serving plans

A model server is a deployment and a service that exposes it at ports of the nodes.
-/

namespace ClusterProvisioning.Plan.Serving

/-- The arguments of the model server for the configured repository. -/
def serverArgs (config : ServingConfig) : List String :=
  [s!"--model-repository={config.modelRepository}", "--allow-gpu-metrics=false",
    "--strict-model-config=false"]

def containerPort (name : String) (port : UInt16) : Json :=
  .object [("containerPort", number16 port), ("name", .string name)]

def container (config : ServingConfig) (request : WorkloadRequest) (image name : String)
    (resources : ContainerResources) : Json :=
  let command := if request.command.isEmpty then ["tritonserver"] else request.command
  let args := if request.args.isEmpty then serverArgs config else request.args
  .object [
    ("args", .ofTextList args),
    ("command", .ofTextList command),
    ("env", .array (envManifest request.env)),
    ("image", .string image),
    ("imagePullPolicy", .string (request.imagePullPolicy.getD config.imagePullPolicy)),
    ("name", .string name),
    ("ports", .array [containerPort "http-triton" config.httpPort,
      containerPort "grpc-triton" config.grpcPort,
      containerPort "metrics-triton" config.metricsPort]),
    ("resources", resources.manifest),
    ("volumeMounts", .array (volumeMounts 0 request.mounts))]

def deployment (config : ServingConfig) (request : WorkloadRequest) (image name ns : String)
    (resources : ContainerResources) (labels : Table String) : Json :=
  manifestOf .deployment name ns labels (.object [
    ("replicas", .ofNat (replicaCount request.replicas.primary config.replicas).toNat),
    ("selector", .object [("matchLabels", .ofTexts labels)]),
    ("template", .object [
      ("metadata", .object [("labels", .ofTexts labels)]),
      ("spec", .object [
        ("containers", .array [container config request image name resources]),
        ("nodeSelector", .ofTexts (config.nodeSelector.extend request.nodeSelector)),
        ("volumes", .array (mountVolumes 0 request.mounts))])])])

def servicePort (name : String) (port : UInt16) : Json :=
  .object [("name", .string name), ("port", number16 port), ("protocol", .string "TCP"),
    ("targetPort", number16 port)]

def service (config : ServingConfig) (name ns : String) (labels : Table String) : Json :=
  manifestOf .service name ns labels (.object [
    ("ports", .array [servicePort "http-triton" config.httpPort,
      servicePort "grpc-triton" config.grpcPort]),
    ("selector", .ofTexts labels),
    ("type", .string "NodePort")])

/-- The plan of a serving deployment. -/
def build (config : ServingConfig) (request : WorkloadRequest) : Outcome Plan := do
  let image ← resolveImage request config.image
  let resources ← ContainerResources.resolve request config.cpu config.memory
  let name ← labelOf "name" request.name
  let ns := resolveNamespace request config.ns
  let labels := request.labels.insert "app" name
  return {
    workload := .servingDeployment
    units := [
      .of .deployment ns name (deployment config request image name ns resources labels),
      .of .service ns name (service config name ns labels)]
    access := some (.nodePort config.externalAddress ⟨.service, ns, name⟩ config.httpPort) }

end ClusterProvisioning.Plan.Serving
