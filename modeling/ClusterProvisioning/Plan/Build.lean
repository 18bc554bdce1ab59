import ClusterProvisioning.Plan.Serving
import ClusterProvisioning.Plan.Session
import ClusterProvisioning.Plan.Training

/-!
# Building plans

The plan of a request, and the resources that admission asks for on its behalf. Neither talks to
the cluster.
-/

namespace ClusterProvisioning.Plan

/-- The plan of a request. The suffix names sessions, so a plan can be built again under the names
of an earlier one. -/
def build (config : Config) (request : WorkloadRequest) (suffix : String) : Outcome Plan :=
  let plan := match request.kind with
    | .session => Session.build config.session request suffix
    | .servingDeployment => Serving.build config.serving request
    | .trainingJob => Training.build config.training request
  plan.mapError fun report => report.withNote s!"workload kind: {request.kind}"

/-- The resources of the largest pod that the request creates. -/
def footprint (config : Config) (request : WorkloadRequest) : Outcome Resources :=
  let (cpu, memory) := match request.kind with
    | .session => (config.session.cpu, config.session.memory)
    | .servingDeployment => (config.serving.cpu, config.serving.memory)
    | .trainingJob => (config.training.cpu, config.training.memory)
  (ContainerResources.resolve request cpu memory).map ContainerResources.amount

end ClusterProvisioning.Plan
