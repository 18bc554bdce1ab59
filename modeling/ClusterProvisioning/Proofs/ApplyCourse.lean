import ClusterProvisioning.Apply
import ClusterProvisioning.Gateway.Memory
import ClusterProvisioning.Proofs.ProgramTrace

/-!
# The course of applying a plan

Whatever a gateway answers, applying a plan first creates the units of some initial part of the
plan, one after the other, and then ends in one of four ways: nothing is left to create, the
caller cancels, or a unit is not created and the earlier ones are kept or undone. `Course` says
what happens in each case, and `course_of_traces` that nothing else can happen.
-/

namespace ClusterProvisioning.Proofs
open Program

/-- The report of a delete that left the object in place. -/
def deleteFailure (target : Ref) (report : Report GatewayError) : Report ProvisionError :=
  .above (.transport (.delete target)) report

/-- The events in which units are created in order, each by a delete that leaves nothing under its
name and a create. -/
inductive UnitsCreated : List PlanUnit → List Event → Prop
  | nil : UnitsCreated [] []
  | cons {u : PlanUnit} {us : List PlanUnit} {events : List Event}
      {removed : (GatewayCall.delete u.ref).Result} {made : Ref}
      (settled : Settles removed) (rest : UnitsCreated us events) :
      UnitsCreated (u :: us)
        (.call (.delete u.ref) removed ::
          .call (.create u.ref.ns u.ref.kind u.manifest) (.ok made) ::
          .audit ⟨.create, made⟩ :: events)

/-- The events in which a unit is not created, and the report of it: its delete fails, or its
create does. -/
inductive UnitFails (u : PlanUnit) : List Event → Report ProvisionError → Prop
  | atDelete {report : Report GatewayError} (stuck : report.cause.isNotFound = false) :
      UnitFails u [.call (.delete u.ref) (.error report)]
        ((deleteFailure u.ref report).withNote "failed to remove stale object before create")
  | atCreate {removed : (GatewayCall.delete u.ref).Result} {report : Report GatewayError}
      (settled : Settles removed) :
      UnitFails u
        [.call (.delete u.ref) removed,
          .call (.create u.ref.ns u.ref.kind u.manifest) (.error report)]
        (.above (.transport (.create u.ref)) report)

/-- The events of a unit in whose course the caller cancels, after this many calls. -/
inductive UnitAbandoned (cancel : Cancellation) (finished : Nat) (u : PlanUnit) :
    List Event → Prop
  | unbegun (fired : cancel.hasFired finished = true) : UnitAbandoned cancel finished u []
  | atDelete (fired : cancel.abandons finished (.delete u.ref) = true) :
      UnitAbandoned cancel finished u []
  | atCreate {removed : (GatewayCall.delete u.ref).Result} (settled : Settles removed)
      (fired : cancel.abandons (finished + 1) (.create u.ref.ns u.ref.kind u.manifest) = true) :
      UnitAbandoned cancel finished u [.call (.delete u.ref) removed]

/-- The events in which units are undone in the order given, the references of those that stay,
and the reports of the deletes that fail. -/
inductive UnitsUndone :
    List PlanUnit → List Event → List Ref → List (Report ProvisionError) → Prop
  | nil : UnitsUndone [] [] [] []
  | permanent {u : PlanUnit} {us : List PlanUnit} {events : List Event} {left : List Ref}
      {failures : List (Report ProvisionError)} (action : u.rollback = none)
      (rest : UnitsUndone us events left failures) :
      UnitsUndone (u :: us) events (u.ref :: left) failures
  | undone {u : PlanUnit} {us : List PlanUnit} {events : List Event} {left : List Ref}
      {failures : List (Report ProvisionError)} {target : Ref}
      {removed : (GatewayCall.delete target).Result} (action : u.rollback = some target)
      (settled : Settles removed) (rest : UnitsUndone us events left failures) :
      UnitsUndone (u :: us)
        (.call (.delete target) removed :: .audit ⟨.rollback, target⟩ :: events) left failures
  | orphaned {u : PlanUnit} {us : List PlanUnit} {events : List Event} {left : List Ref}
      {failures : List (Report ProvisionError)} {target : Ref} {report : Report GatewayError}
      (action : u.rollback = some target) (stuck : report.cause.isNotFound = false)
      (rest : UnitsUndone us events left failures) :
      UnitsUndone (u :: us) (.call (.delete target) (.error report) :: events) (u.ref :: left)
        (.above (.rollbackFailed target) (deleteFailure target report) :: failures)

/-- The report of a plan one of whose units fails after others were created. -/
def planFailure (made : List PlanUnit) (failed : PlanUnit) (report : Report ProvisionError) :
    Report ProvisionError :=
  if made.isEmpty then report else .above (.partialProvision failed.ref) report

/-- What happens after some units were created, given those that are left, and the result. -/
inductive Ending (cancel : Cancellation) (made : List PlanUnit) :
    List PlanUnit → List Event → ApplyResult → Prop
  | completed : Ending cancel made [] [] ⟨made.map PlanUnit.ref, none, none⟩
  | cancelled {u : PlanUnit} {rest : List PlanUnit} {begun : List Event}
      (abandoned : UnitAbandoned cancel (2 * made.length) u begun) :
      Ending cancel made (u :: rest) begun (Apply.cancelled made)
  | kept {u : PlanUnit} {rest : List PlanUnit} {tried : List Event}
      {report : Report ProvisionError} (fails : UnitFails u tried report)
      (policy : u.onFailure = .keepCreated) :
      Ending cancel made (u :: rest) tried
        ⟨made.map PlanUnit.ref, none, some (planFailure made u report)⟩
  | rolledBack {u : PlanUnit} {rest : List PlanUnit} {tried undo : List Event}
      {report : Report ProvisionError} {left : List Ref}
      {failures : List (Report ProvisionError)} (fails : UnitFails u tried report)
      (policy : u.onFailure = .rollBackCreated)
      (undone : UnitsUndone made.reverse undo left failures) :
      Ending cancel made (u :: rest) (tried ++ undo)
        ⟨left.reverse, none, some (failures.foldl Report.combine (planFailure made u report))⟩

/-- What applying a plan can do, and what it leads to. -/
def Course (cancel : Cancellation) (us : List PlanUnit) (events : List Event)
    (result : ApplyResult) : Prop :=
  ∃ made rest done tail, us = made ++ rest ∧ events = done ++ tail ∧ UnitsCreated made done ∧
    Ending cancel made rest tail result

/-! ### The calls of one unit -/

theorem traces_deleteIfPresent {target : Ref} {events : List Event} {a : Outcome Unit}
    (h : Traces (Apply.deleteIfPresent target) events a) :
    ∃ removed : (GatewayCall.delete target).Result, events = [.call (.delete target) removed] ∧
      (Settles removed ∧ a = .ok () ∨
        ∃ report, removed = .error report ∧ report.cause.isNotFound = false ∧
          a = .error (deleteFailure target report)) := by
  obtain ⟨removed, rest, rfl, hrest⟩ := (traces_perform_bind _ _ _ _).mp h
  refine ⟨removed, ?_⟩
  cases removed with
  | ok _ =>
    obtain ⟨rfl, rfl⟩ := hrest
    exact ⟨rfl, .inl ⟨trivial, rfl⟩⟩
  | error report =>
    cases hfound : report.cause.isNotFound with
    | true =>
      simp only [hfound, if_true] at hrest
      obtain ⟨rfl, rfl⟩ := hrest
      exact ⟨rfl, .inl ⟨hfound, rfl⟩⟩
    | false =>
      simp only [hfound, Bool.false_eq_true, if_false] at hrest
      obtain ⟨rfl, rfl⟩ := hrest
      exact ⟨rfl, .inr ⟨report, rfl, hfound, rfl⟩⟩

theorem traces_createFrom {target : Ref} {manifest : Json} {step : ClusterStep}
    {events : List Event} {a : Outcome Ref}
    (h : Traces (Apply.createFrom target manifest step) events a) :
    (∃ made, events = [.call (.create target.ns target.kind manifest) (.ok made)] ∧
        a = .ok made) ∨
      ∃ report, events = [.call (.create target.ns target.kind manifest) (.error report)] ∧
        a = .error (.above (.transport step) report) := by
  obtain ⟨result, rest, rfl, hrest⟩ := (traces_perform_bind _ _ _ _).mp h
  cases result with
  | ok made =>
    obtain ⟨rfl, rfl⟩ := hrest
    exact .inl ⟨made, rfl, rfl⟩
  | error report =>
    obtain ⟨rfl, rfl⟩ := hrest
    exact .inr ⟨report, rfl, rfl⟩

theorem traces_createUnit {cancel : Cancellation} {finished : Nat} {u : PlanUnit}
    {events : List Event} {a : Option (Outcome Ref)}
    (h : Traces (Apply.createUnit cancel finished u) events a) :
    (a = none ∧ UnitAbandoned cancel finished u events) ∨
      (∃ report, a = some (.error report) ∧ UnitFails u events report) ∨
      ∃ (removed : (GatewayCall.delete u.ref).Result) (made : Ref), Settles removed ∧
        a = some (.ok made) ∧
        events = [.call (.delete u.ref) removed,
          .call (.create u.ref.ns u.ref.kind u.manifest) (.ok made)] := by
  unfold Apply.createUnit at h
  split at h
  next fired =>
    obtain ⟨rfl, rfl⟩ := h
    exact .inl ⟨rfl, .atDelete fired⟩
  next =>
    obtain ⟨deleted, first, second, rfl, hdelete, hrest⟩ := (traces_bind _ _ _ _).mp h
    obtain ⟨removed, rfl, ⟨settled, rfl⟩ | ⟨report, rfl, stuck, rfl⟩⟩ :=
      traces_deleteIfPresent hdelete
    · dsimp only at hrest
      split at hrest
      next fired =>
        obtain ⟨rfl, rfl⟩ := hrest
        exact .inl ⟨rfl, .atCreate settled fired⟩
      next =>
        obtain ⟨created, third, fourth, rfl, hcreate, hend⟩ := (traces_bind _ _ _ _).mp hrest
        obtain ⟨rfl, rfl⟩ := hend
        obtain ⟨made, rfl, rfl⟩ | ⟨report, rfl, rfl⟩ := traces_createFrom hcreate
        · exact .inr (.inr ⟨removed, made, settled, rfl, rfl⟩)
        · exact .inr (.inl ⟨_, rfl, .atCreate settled⟩)
    · obtain ⟨rfl, rfl⟩ := hrest
      exact .inr (.inl ⟨_, rfl, .atDelete stuck⟩)

/-! ### Undoing -/

theorem traces_rollBack {us : List PlanUnit} {report : Report ProvisionError}
    {remaining : List Ref} {events : List Event} {a : Report ProvisionError × List Ref}
    (h : Traces (Apply.rollBack report remaining us) events a) :
    ∃ left failures, UnitsUndone us events left failures ∧
      a = (failures.foldl Report.combine report, left.reverse ++ remaining) := by
  induction us generalizing report remaining events with
  | nil =>
    obtain ⟨rfl, rfl⟩ := h
    exact ⟨[], [], .nil, rfl⟩
  | cons u us ih =>
    unfold Apply.rollBack at h
    split at h
    next action =>
      obtain ⟨left, failures, hundone, rfl⟩ := ih h
      refine ⟨u.ref :: left, failures, .permanent action hundone, ?_⟩
      rw [List.reverse_cons, List.append_assoc, List.singleton_append]
    next target action =>
      obtain ⟨deleted, first, second, rfl, hdelete, hrest⟩ := (traces_bind _ _ _ _).mp h
      obtain ⟨removed, rfl, ⟨settled, rfl⟩ | ⟨failure, rfl, stuck, rfl⟩⟩ :=
        traces_deleteIfPresent hdelete
      · obtain ⟨rest, rfl, htail⟩ := (traces_record_bind _ _ _ _ _).mp hrest
        obtain ⟨left, failures, hundone, rfl⟩ := ih htail
        exact ⟨left, failures, .undone action settled hundone, rfl⟩
      · obtain ⟨left, failures, hundone, rfl⟩ := ih hrest
        refine ⟨u.ref :: left, _ :: failures, .orphaned action stuck hundone, ?_⟩
        rw [List.reverse_cons, List.append_assoc, List.singleton_append, List.foldl_cons]

/-- Ending after a failure is one of the two endings that the policy of the failed unit allows. -/
theorem ending_of_fail {cancel : Cancellation} {made rest : List PlanUnit} {u : PlanUnit}
    {tried events : List Event} {report : Report ProvisionError} {result : ApplyResult}
    (fails : UnitFails u tried report) (h : Traces (Apply.fail u made report) events result) :
    Ending cancel made (u :: rest) (tried ++ events) result := by
  unfold Apply.fail at h
  dsimp only at h
  split at h
  next policy =>
    obtain ⟨rfl, rfl⟩ := h
    rw [List.append_nil]
    exact .kept fails policy
  next policy =>
    obtain ⟨undone, first, second, rfl, hundo, hend⟩ := (traces_bind _ _ _ _).mp h
    obtain ⟨left, failures, hundone, rfl⟩ := traces_rollBack hundo
    obtain ⟨rfl, rfl⟩ := hend
    rw [List.append_nil, List.append_nil]
    exact .rolledBack fails policy hundone

/-! ### The whole plan -/

theorem unitsCreated_append {us vs : List PlanUnit} {first second : List Event}
    (hus : UnitsCreated us first) (hvs : UnitsCreated vs second) :
    UnitsCreated (us ++ vs) (first ++ second) := by
  induction hus with
  | nil => exact hvs
  | cons settled _ ih => exact .cons settled ih

theorem course_of_createAll {cancel : Cancellation} {made us : List PlanUnit}
    {done events : List Event} {result : ApplyResult} (created : UnitsCreated made done)
    (h : Traces (Apply.createAll cancel (2 * made.length) made us) events result) :
    Course cancel (made ++ us) (done ++ events) result := by
  -- Every unit made took two calls, so the count of finished calls follows from the units made.
  induction us generalizing made done events with
  | nil =>
    obtain ⟨rfl, rfl⟩ := h
    exact ⟨made, [], done, [], rfl, rfl, created, .completed⟩
  | cons u us ih =>
    unfold Apply.createAll at h
    split at h
    next fired =>
      obtain ⟨rfl, rfl⟩ := h
      exact ⟨made, u :: us, done, [], rfl, rfl, created, .cancelled (.unbegun fired)⟩
    next =>
      obtain ⟨outcome, first, second, rfl, hunit, hrest⟩ := (traces_bind _ _ _ _).mp h
      obtain ⟨rfl, abandoned⟩ | ⟨report, rfl, fails⟩ | ⟨removed, target, settled, rfl, rfl⟩ :=
        traces_createUnit hunit
      · obtain ⟨rfl, rfl⟩ := hrest
        refine ⟨made, u :: us, done, first, rfl, ?_, created, .cancelled abandoned⟩
        rw [List.append_nil]
      · exact ⟨made, u :: us, done, first ++ second, rfl, rfl, created, ending_of_fail fails hrest⟩
      · obtain ⟨rest, rfl, htail⟩ := (traces_record_bind _ _ _ _ _).mp hrest
        have hmade : UnitsCreated (made ++ [u]) (done ++
            [.call (.delete u.ref) removed,
              .call (.create u.ref.ns u.ref.kind u.manifest) (.ok target),
              .audit ⟨.create, target⟩]) :=
          unitsCreated_append created (.cons settled .nil)
        have hlength : 2 * made.length + 2 = 2 * (made ++ [u]).length := by
          rw [List.length_append, List.length_singleton]
          omega
        rw [hlength] at htail
        simpa only [List.append_assoc, List.cons_append, List.nil_append] using ih hmade htail

/-- Whatever answers its calls, applying a plan takes one of the described courses. -/
theorem course_of_traces {cancel : Cancellation} {us : List PlanUnit} {events : List Event}
    {result : ApplyResult} (h : Traces (Apply.units us cancel) events result) :
    Course cancel us events result :=
  course_of_createAll .nil h

theorem unitsCreated_of_success {cancel : Cancellation} {us : List PlanUnit}
    {events : List Event} {result : ApplyResult} (course : Course cancel us events result)
    (success : result.isSuccess = true) : UnitsCreated us events := by
  obtain ⟨made, rest, done, tail, rfl, rfl, created, ending⟩ := course
  cases ending with
  | completed => simpa only [List.append_nil] using created
  | cancelled _ => cases success
  | kept _ _ => cases success
  | rolledBack _ _ _ => cases success

theorem result_of_success {cancel : Cancellation} {us : List PlanUnit} {events : List Event}
    {result : ApplyResult} (course : Course cancel us events result)
    (success : result.isSuccess = true) : result = ⟨us.map PlanUnit.ref, none, none⟩ := by
  obtain ⟨made, rest, done, tail, rfl, rfl, created, ending⟩ := course
  cases ending with
  | completed => rw [List.append_nil]
  | cancelled _ => cases success
  | kept _ _ => cases success
  | rolledBack _ _ _ => cases success

/-! ### A plan of three units -/

/-- A unit with an empty specification. -/
def bareUnit (kind : Kind) (name : String) : PlanUnit :=
  .of kind "ns" name (Plan.manifestOf kind name "ns" [] (.object []))

/-- A pod, a service that cannot be undone, and a route. -/
def threeUnits : List PlanUnit :=
  [bareUnit .pod "one", { bareUnit .service "two" with rollback := none },
    bareUnit .virtualService "three"]

/-- A cluster on which the route is not created, and the pod is deleted only once. -/
def failingCluster : MemoryCluster :=
  (MemoryCluster.empty.failOn .create "three").failAfter .delete "one" 1

end ClusterProvisioning.Proofs
