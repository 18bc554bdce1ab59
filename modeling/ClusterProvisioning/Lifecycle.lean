import ClusterProvisioning.Admission
import ClusterProvisioning.Apply
import ClusterProvisioning.Plan.Build
import ClusterProvisioning.Status

/-!
# The life of a workload

Provisioning a request, reading the status of its objects, and resetting it under the same names.
-/

namespace ClusterProvisioning

/-- What a request leads to. -/
inductive Provisioned where
  /-- No single node has room; nothing was created. -/
  | denied (request : Resources)
  | applied (result : ApplyResult)

namespace Lifecycle

open Program

/-- The node port of the first port of a service. -/
def firstNodePort? (service : Json) : Option UInt16 :=
  ((service.at? ["spec", "ports", "0", "nodePort"]).bind Json.nat?).bind fun port =>
    if 0 < port ∧ port < UInt16.size then some (.ofNat port) else none

/-- How callers reach a workload that has been created. -/
def resolveAccess : Option Access → Program (Option String)
  | none => return none
  | some (.url url) => return some url
  | some (.nodePort address service fallback) => do
    let port := match ← perform (.get service) with
      | .ok object => (firstNodePort? object).getD fallback
      | .error _ => fallback
    return some s!"http://{address}:{port.toNat}"

/-- Applies a plan and, if all units are created, finds out how to reach the workload. -/
def applyPlan (plan : Plan) (cancel : Cancellation) : Program ApplyResult := do
  let result ← Apply.units plan.units cancel
  if result.isSuccess then return { result with access := ← resolveAccess plan.access }
  else return result

/-- Validates, admits and creates a workload. Nothing is asked of the cluster for a request that is
refused, and what fails after admission is reported in the result. -/
def provision (config : Config) (request : WorkloadRequest) (suffix : String)
    (cancel : Cancellation) : Program (Outcome Provisioned) := do
  match Plan.build config request suffix with
  | .error report => return .error report
  | .ok plan =>
    match Plan.footprint config request with
    | .error report => return .error report
    | .ok footprint =>
      match ← Admission.check footprint with
      | .error report => return .error report
      | .ok false => return .ok (.denied footprint)
      | .ok true => return .ok (.applied (← applyPlan plan cancel))

/-- The status of an object; one that is gone is deleted. -/
def status (registry : StatusRegistry) (target : Ref) : Program (Outcome Status) := do
  match ← perform (.get target) with
  | .ok object => return registry.normalize target.kind object
  | .error report =>
    if report.cause.isNotFound then return .ok .deleted
    else return .error (.above (.transport (.get target)) report)

/-- What follows the last hyphen of a name. -/
def nameSuffix? (name : String) : Option String :=
  let reversed := name.toList.reverse
  match reversed.dropWhile (· != '-') with
  | [] => none
  | _ => some (String.ofList (reversed.takeWhile (· != '-')).reverse)

/-- The suffix in the name of the recorded pod of a session. -/
def recordedSuffix? (kind : WorkloadKind) (units : List Ref) : Option String :=
  if kind = .session then
    (units.find? fun u => u.kind = .pod).bind fun pod => nameSuffix? pod.name
  else none

/-- Deletes a workload and creates it again. A session keeps the suffix of its recorded pod, so its
names and address stay; `fresh` is the suffix for one without. Admission is not asked. -/
def reset (config : Config) (request : WorkloadRequest) (units : List Ref) (fresh : String) :
    Program (Outcome ApplyResult) := do
  match Plan.build config request ((recordedSuffix? request.kind units).getD fresh) with
  | .error report => return .error report
  | .ok plan =>
    match ← Apply.teardown units with
    | .error report =>
      return .error (report.withNote "failed to remove the workload before reset")
    | .ok () => return .ok (← applyPlan plan .never)

end Lifecycle

end ClusterProvisioning
