import ClusterProvisioning.Gateway.Program

/-!
# Admission

Whether some single node has room for a request, before anything is created. Room is never summed
over nodes. The check reads the cluster as it is and reserves nothing.
-/

namespace ClusterProvisioning.Admission

open Program

/-- What a node has left beside the pods that run on it. -/
def headroom (node : NodeView) (pods : List PodFootprint) : Resources :=
  node.allocatable - Resources.sum (pods.map PodFootprint.requested)

/-- Whether a node has room. Its pods are listed only if it would have room without them. -/
def nodeFits (request : Resources) (node : NodeView) : Program (Outcome Bool) :=
  if node.allocatable.fits request then do
    match ← perform (.listPods node.name) with
    | .ok pods => return .ok ((headroom node pods).fits request)
    | .error report => return .error (.above (.transport (.listPods node.name)) report)
  else return .ok false

/-- Whether one of the nodes has room; the first that has, or that cannot be looked at, decides. -/
def anyFits (request : Resources) : List NodeView → Program (Outcome Bool)
  | [] => return .ok false
  | node :: rest => do
    match ← nodeFits request node with
    | .ok false => anyFits request rest
    | decided => return decided

/-- Whether some node of the cluster has room. A listing that fails is an error, never a denial. -/
def check (request : Resources) : Program (Outcome Bool) := do
  match ← perform .listNodes with
  | .ok nodes => anyFits request nodes
  | .error report => return .error (.above (.transport .listNodes) report)

end ClusterProvisioning.Admission
