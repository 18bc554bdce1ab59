import ClusterProvisioning.Gateway.Program
import ClusterProvisioning.Plan.Basic

/-!
# Applying plans

Creating the units of a plan in order, and undoing what was created when one of them fails. The
cluster has no transactions, so undoing is best effort: a unit whose compensating delete fails
stays, and is reported with the error. Replacing single objects and tearing workloads down stand
here too.
-/

namespace ClusterProvisioning

/-- When a caller cancels. Points in time are counted in create and delete calls, from one. A call
that creates a unit and has begun when the caller cancels is abandoned before it reaches the
cluster. -/
inductive Cancellation where
  | never
  /-- Before anything happens. -/
  | before
  /-- As soon as a call has finished. The call after it has begun by then if `waits` says that its
  answer takes time; any other call is answered before the caller is heard. -/
  | after (call : Nat) (waits : GatewayCall → Bool)
  /-- When a call starts. -/
  | during (call : Nat)

namespace Cancellation

/-- Whether the caller has cancelled when this many calls have finished. -/
def hasFired (c : Cancellation) (finished : Nat) : Bool :=
  match c with
  | .before => true
  | .after n _ => n ≠ 0 && n ≤ finished
  | .never | .during _ => false

/-- Whether a call that creates a unit and comes after this many is abandoned. -/
def abandons (c : Cancellation) (finished : Nat) (call : GatewayCall) : Bool :=
  match c with
  | .during n => n == finished + 1
  | .after _ waits => c.hasFired finished && waits call
  | .never | .before => false

end Cancellation

/-- What applying a plan leads to. -/
structure ApplyResult where
  /-- The units on the cluster afterwards, in the order of their creation. -/
  created : List Ref
  access : Option String
  /-- The failure, combined with every failure to undo. -/
  error : Option (Report ProvisionError)
  deriving Repr

def ApplyResult.isSuccess (r : ApplyResult) : Bool := r.error.isNone

namespace Apply

open Program

/-- Deletes an object; one that is already gone is fine. -/
def deleteIfPresent (target : Ref) : Program (Outcome Unit) := do
  match ← perform (.delete target) with
  | .ok () => return .ok ()
  | .error report =>
    if report.cause.isNotFound then return .ok ()
    else return .error (.above (.transport (.delete target)) report)

/-- Creates the object of a manifest; a failure is reported as the given step. -/
def createFrom (target : Ref) (manifest : Json) (step : ClusterStep) : Program (Outcome Ref) := do
  match ← perform (.create target.ns target.kind manifest) with
  | .ok created => return .ok created
  | .error report => return .error (.above (.transport step) report)

/-- Creates a unit in place of whatever stands under its name, after this many calls; `none` if
the caller cancels in its course. -/
def createUnit (cancel : Cancellation) (finished : Nat) (u : PlanUnit) :
    Program (Option (Outcome Ref)) := do
  if cancel.abandons finished (.delete u.ref) then return none
  match ← deleteIfPresent u.ref with
  | .error report =>
    return some (.error (report.withNote "failed to remove stale object before create"))
  | .ok () =>
    if cancel.abandons (finished + 1) (.create u.ref.ns u.ref.kind u.manifest) then return none
    return some (← createFrom u.ref u.manifest (.create u.ref))

/-- Undoes units, in the order given, and adds what fails to a report. The second result lists, in
the order of their creation, the units that are still there, before those that `remaining` lists. -/
def rollBack (report : Report ProvisionError) (remaining : List Ref) :
    List PlanUnit → Program (Report ProvisionError × List Ref)
  | [] => return (report, remaining)
  | u :: rest =>
    match u.rollback with
    | none => rollBack report (u.ref :: remaining) rest
    | some target => do
      match ← deleteIfPresent target with
      | .ok () =>
        record .rollback target
        rollBack report remaining rest
      | .error failure =>
        rollBack (report.combine (.above (.rollbackFailed target) failure)) (u.ref :: remaining)
          rest

/-- Ends a run in which a unit was not created. -/
def fail (failed : PlanUnit) (created : List PlanUnit) (report : Report ProvisionError) :
    Program ApplyResult := do
  let report :=
    if created.isEmpty then report else .above (.partialProvision failed.ref) report
  match failed.onFailure with
  | .keepCreated => return ⟨created.map PlanUnit.ref, none, some report⟩
  | .rollBackCreated =>
    let (report, remaining) ← rollBack report [] created.reverse
    return ⟨remaining, none, some report⟩

/-- Ends a run that the caller cancelled; what was created stays. -/
def cancelled (created : List PlanUnit) : ApplyResult :=
  ⟨created.map PlanUnit.ref, none, some (.of (.cancelled created.length))⟩

/-- Creates the units that are left after some are created with this many calls. -/
def createAll (cancel : Cancellation) (finished : Nat) (created : List PlanUnit) :
    List PlanUnit → Program ApplyResult
  | [] => return ⟨created.map PlanUnit.ref, none, none⟩
  | u :: rest => do
    if cancel.hasFired finished then return cancelled created
    match ← createUnit cancel finished u with
    | none => return cancelled created
    | some (.error report) => fail u created report
    | some (.ok target) =>
      record .create target
      createAll cancel (finished + 2) (created ++ [u]) rest

/-- Creates units in order, each in place of whatever stands under its name. -/
def units (us : List PlanUnit) (cancel : Cancellation) : Program ApplyResult :=
  createAll cancel 0 [] us

/-- Gives a live object a new manifest: in place where its kind allows that, else by a delete and a
create, between which the workload is not available. -/
def replace (target : Ref) (manifest : Json) : Program (Outcome Ref) := do
  if target.kind.patchableInPlace then
    match ← perform (.update target manifest) with
    | .error report => return .error (.above (.transport (.patch target)) report)
    | .ok updated =>
      record .patch updated
      return .ok updated
  else
    match ← deleteIfPresent target with
    | .error report => return .error report
    | .ok () =>
      record .delete target
      match ← createFrom target manifest (.recreate target) with
      | .error report => return .error report
      | .ok created =>
        record .create created
        return .ok created

/-- Adds a failure to those before it. -/
def addFailure (failures : Option (Report ProvisionError)) (report : Report ProvisionError) :
    Option (Report ProvisionError) :=
  match failures with
  | some first => some (first.combine report)
  | none => some report

/-- Deletes every target in the order given, whatever fails, and collects the failures. -/
def deleteAll (failures : Option (Report ProvisionError)) :
    List Ref → Program (Outcome Unit)
  | [] => return match failures with
    | some report => .error report
    | none => .ok ()
  | target :: rest => do
    match ← deleteIfPresent target with
    | .ok () =>
      record .delete target
      deleteAll failures rest
    | .error report => deleteAll (addFailure failures report) rest

/-- Deletes units in reverse order; those already gone are fine. -/
def teardown (targets : List Ref) : Program (Outcome Unit) :=
  deleteAll none targets.reverse

end Apply

end ClusterProvisioning
