import ClusterProvisioning.Plan.Basic

/-!
# Session plans

A notebook session is a pod, a service in front of it, and a route to the service. The three agree
on labels, port and path, and take their name from the owner and a suffix.
-/

namespace ClusterProvisioning.Plan.Session

/-- The path under which the notebook server answers and the route matches. -/
def basePath (ns name : String) : String := s!"/notebook/{ns}/{name}/"

/-- What the manifests of one session agree on. -/
structure Identity where
  owner : String
  ns : String
  name : String
  serviceName : String
  path : String
  port : UInt16
  labels : Table String

/-- The identity of a session of an owner. The labels `app`, `pod-type` and `user` are set whatever
the request says. -/
def Identity.of (request : WorkloadRequest) (owner suffix ns : String) (port : UInt16) : Identity :=
  let name := s!"{owner}-{suffix}"
  { owner := owner
    ns := ns
    name := name
    serviceName := s!"{name}-svc"
    path := basePath ns name
    port := port
    labels := request.labels |>.insert "app" name |>.insert "pod-type" "notebook"
      |>.insert "user" owner }

/-- The command line of the notebook server. -/
def serverArgs (workspace : String) (port : UInt16) (path : String) : String :=
  s!"jupyter lab --notebook-dir={workspace} --ip=0.0.0.0 --no-browser --allow-root " ++
  s!"--port={port.toNat} --NotebookApp.token='' --NotebookApp.password='' " ++
  "--ServerApp.disable_check_xsrf=True --NotebookApp.allow_origin='*' " ++
  s!"--NotebookApp.base_url={path}"

def volumes (config : SessionConfig) (request : WorkloadRequest) : List Json :=
  [claimVolume "workspace" config.workspaceClaim,
    claimVolume "archives" config.archiveClaim,
    .object [("hostPath", .object [("path", .string "/etc/localtime")]),
      ("name", .string "tz-config")],
    .object [("emptyDir", .object [("medium", .string "Memory")]), ("name", .string "dshm")]] ++
    mountVolumes 0 request.mounts

/-- A mount of the owner's directory of a claim. -/
def ownerMount (volume path owner : String) : Json :=
  .object [("mountPath", .string path), ("name", .string volume), ("subPath", .string owner)]

def mounts (workspace archive owner : String) (request : WorkloadRequest) : List Json :=
  [ownerMount "workspace" workspace owner,
    ownerMount "archives" archive owner,
    .object [("mountPath", .string "/etc/localtime"), ("name", .string "tz-config")],
    .object [("mountPath", .string "/dev/shm"), ("name", .string "dshm")]] ++
    volumeMounts 0 request.mounts

def env (request : WorkloadRequest) : List Json :=
  [.object [("name", .string "USERNAME"), ("value", .string request.owner)],
    fieldEnv "K8S_NODE_NAME" "spec.nodeName",
    fieldEnv "K8S_POD_NAMESPACE" "metadata.namespace",
    fieldEnv "K8S_POD_IP" "status.podIP",
    fieldEnv "K8S_HOST_IP" "status.hostIP",
    fieldEnv "K8S_POD_NAME" "metadata.name"] ++ envManifest request.env

def container (config : SessionConfig) (request : WorkloadRequest) (image : String)
    (resources : ContainerResources) (id : Identity) : Json :=
  let workspace := s!"{config.workspaceRoot}/{id.owner}"
  let archive := s!"{config.archiveRoot}/{id.owner}"
  let command := if request.command.isEmpty then ["sh", "-c"] else request.command
  let args :=
    if request.args.isEmpty then [serverArgs workspace id.port id.path] else request.args
  .object [
    ("args", .ofTextList args),
    ("command", .ofTextList command),
    ("env", .array (env request)),
    ("image", .string image),
    ("imagePullPolicy", .string (request.imagePullPolicy.getD "IfNotPresent")),
    ("name", .string id.name),
    ("ports", .array [.object [("containerPort", number16 id.port), ("name", .string "http")]]),
    ("resources", resources.manifest),
    ("volumeMounts", .array (mounts workspace archive id.owner request)),
    ("workingDir", .string workspace)]

def pod (config : SessionConfig) (request : WorkloadRequest) (image : String)
    (resources : ContainerResources) (id : Identity) : Json :=
  manifestOf .pod id.name id.ns id.labels (.object (
    [("containers", .array [container config request image resources id])] ++
    (config.imagePullSecret.map fun secret =>
      ("imagePullSecrets", .array [.object [("name", .string secret)]])).toList ++
    [("nodeSelector", .ofTexts (config.nodeSelector.extend request.nodeSelector)),
      ("restartPolicy", .string (request.restartPolicy.getD "Never"))] ++
    (config.schedulerName.map fun name => ("schedulerName", .string name)).toList ++
    [("serviceAccountName", .string "default"),
      ("volumes", .array (volumes config request))]))

def service (config : SessionConfig) (id : Identity) : Json :=
  manifestOf .service id.serviceName id.ns id.labels (.object [
    ("ports", .array [.object [("name", .string "http0"), ("port", number16 id.port),
      ("protocol", .string "TCP"), ("targetPort", number16 id.port)]]),
    ("selector", .ofTexts id.labels),
    ("type", .string (toString config.serviceType))])

def route (config : SessionConfig) (id : Identity) : Json :=
  manifestOf .virtualService id.name id.ns id.labels (.object [
    ("gateways", .array [.string config.routeGateway]),
    ("hosts", .array [.string config.routeHost]),
    ("http", .array [.object [
      ("match", .array [.object [("uri", .object [("prefix", .string id.path)])]]),
      ("rewrite", .object [("uri", .string id.path)]),
      ("route", .array [.object [("destination", .object [
        ("host", .string s!"{id.serviceName}.{id.ns}.svc.cluster.local"),
        ("port", .object [("number", number16 id.port)])])]]),
      ("timeout", .string config.routeTimeout)]])])

/-- The plan of a session whose identity and resources are settled. -/
def assemble (config : SessionConfig) (request : WorkloadRequest) (image : String)
    (resources : ContainerResources) (id : Identity) : Plan where
  workload := .session
  units := [
    .of .pod id.ns id.name (pod config request image resources id),
    .of .service id.ns id.serviceName (service config id),
    { PlanUnit.of .virtualService id.ns id.name (route config id) with
      onFailure := if config.rollbackOnRouteFailure then .rollBackCreated else .keepCreated }]
  access := some (.url s!"http://{config.externalAddress}{id.path}lab")

/-- The port that a session serves at: the first requested one, else the configured one. -/
def port (config : SessionConfig) (request : WorkloadRequest) : UInt16 :=
  request.ports.head?.getD config.servicePort

/-- The plan of a session named with the given suffix. -/
def build (config : SessionConfig) (request : WorkloadRequest) (suffix : String) :
    Outcome Plan := do
  let image ← resolveImage request config.image
  let resources ← ContainerResources.resolve request config.cpu config.memory
  let owner ← labelOf "owner" request.owner
  if port config request = 0 then throw (.of (.validation .sessionPortZero))
  return assemble config request image resources
    (.of request owner suffix (resolveNamespace request config.ns) (port config request))

end ClusterProvisioning.Plan.Session
