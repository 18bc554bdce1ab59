import ClusterProvisioning.Proofs.CancelledApply
import ClusterProvisioning.Proofs.TeardownReport

/-!
# What a failed plan reports

The report of a plan that stops at a unit is read from the outermost error inwards: the unit at
which it stopped, unless that was the first, then how the delete or the create of the unit failed,
and then, for each created unit whose compensating delete failed, that it was not undone and why.
So the orphans in the report are the units that the result still lists although they can be undone
(`failure_reported`).
-/

namespace ClusterProvisioning.Proofs
open Program MemoryCluster

variable {σ : Type}

/-- A created unit whose compensating delete failed, and what the cluster reports. -/
structure Orphan where
  unit : PlanUnit
  target : Ref
  cause : Report GatewayError

namespace Orphan

/-- The errors that a report has for the orphan. -/
def errors (o : Orphan) : List ProvisionError :=
  [.rollbackFailed o.target, .transport (.delete o.target)]

/-- The whole history of the orphan in a report. -/
def frames (o : Orphan) : List Frame := o.errors.map .provision ++ o.cause.frames

end Orphan

/-- Whether something can be done to undo the unit. -/
def undoable (u : PlanUnit) : Bool := u.rollback.isSome

/-- The answers to the deletes among some events. -/
def deleteAnswers (events : List Event) : List (Except (Report GatewayError) Unit) :=
  events.filterMap fun
    | .call (.delete _) answer => some answer
    | _ => none

/-- What is left of a unit whose compensating delete is answered in this way. -/
def orphan? (u : PlanUnit) (answer : Except (Report GatewayError) Unit) : Option Orphan :=
  match u.rollback, answer with
  | some target, .error cause =>
    if cause.cause.isNotFound then none else some ⟨u, target, cause⟩
  | _, _ => none

/-- The orphans among units that are undone in this order, each by one delete. -/
def orphans (us : List PlanUnit) (undo : List Event) : List Orphan :=
  ((us.filter undoable).zip (deleteAnswers undo)).filterMap fun entry => orphan? entry.1 entry.2

/-- The events in which a unit is not created, the step that fails, and what the cluster
reports. -/
inductive StepFails (u : PlanUnit) : List Event → ClusterStep → Report GatewayError → Prop
  | atDelete {cause : Report GatewayError} (stuck : cause.cause.isNotFound = false) :
      StepFails u [.call (.delete u.ref) (.error cause)] (.delete u.ref) cause
  | atCreate {removed : (GatewayCall.delete u.ref).Result} {cause : Report GatewayError}
      (settled : Settles removed) :
      StepFails u
        [.call (.delete u.ref) removed,
          .call (.create u.ref.ns u.ref.kind u.manifest) (.error cause)]
        (.create u.ref) cause

/-- The history of a step that failed. A delete in front of a create is explained by a note. -/
def stepFrames (step : ClusterStep) (cause : Report GatewayError) : List Frame :=
  (match step with
    | .delete _ => [.note "failed to remove stale object before create"]
    | _ => []) ++ .provision (.transport step) :: cause.frames

/-- The error that names the unit at which a plan stopped, if units were created before it. -/
def stopErrors (made : List PlanUnit) (failed : PlanUnit) : List ProvisionError :=
  if made.isEmpty then [] else [.partialProvision failed.ref]

/-- The gateway reports no errors of the provisioner, neither for deletes nor for creates. Clusters
in memory and API servers are such gateways. -/
def OwnReports (g : Gateway σ) : Prop :=
  OwnErrors g ∧ ∀ ns kind manifest s report,
    (g.answer (.create ns kind manifest) s).1 = .error report →
      ∀ error, Frame.provision error ∉ report.frames

/-- What the result of a plan says that stops at a unit after others were created, given the events
of undoing them. -/
structure StopReported (g : Gateway σ) (made : List PlanUnit) (failed : PlanUnit)
    (undo : List Event) (step : ClusterStep) (cause : Report GatewayError) (result : ApplyResult)
    (report : Report ProvisionError) : Prop where
  outermost : report.cause =
    if made.isEmpty then .transport step else .partialProvision failed.ref
  frames : report.frames = (stopErrors made failed).map .provision ++ stepFrames step cause ++
    (orphans made.reverse undo).flatMap Orphan.frames
  errors : OwnReports g → provisionErrors report =
    stopErrors made failed ++ .transport step :: (orphans made.reverse undo).flatMap Orphan.errors
  stuck : ∀ o ∈ orphans made.reverse undo, o.unit.rollback = some o.target ∧
    .call (.delete o.target) (.error o.cause) ∈ undo ∧ o.cause.cause.isNotFound = false
  kept : failed.onFailure = .keepCreated →
    result.created = made.map PlanUnit.ref ∧ orphans made.reverse undo = []
  /-- The units that are left are those that cannot be undone and the orphans, as they were
  created. -/
  left : failed.onFailure = .rollBackCreated → ∃ stay : List PlanUnit, stay.Sublist made ∧
    result.created = stay.map PlanUnit.ref ∧
    stay.filter undoable = ((orphans made.reverse undo).map Orphan.unit).reverse ∧
    stay.filter (fun u => !undoable u) = made.filter fun u => !undoable u

/-! ### Undoing -/

theorem orphans_permanent {u : PlanUnit} (action : u.rollback = none) (us : List PlanUnit)
    (undo : List Event) : orphans (u :: us) undo = orphans us undo := by
  have hu : ¬undoable u = true := by simp [undoable, action]
  rw [orphans, List.filter_cons_of_neg hu]
  rfl

theorem orphans_undone {u : PlanUnit} {target : Ref} {removed : (GatewayCall.delete target).Result}
    (action : u.rollback = some target) (settled : Settles removed) (us : List PlanUnit)
    (undo : List Event) :
    orphans (u :: us) (.call (.delete target) removed :: .audit ⟨.rollback, target⟩ :: undo) =
      orphans us undo := by
  have hu : undoable u = true := by simp [undoable, action]
  have hnone : orphan? u removed = none := by
    cases removed with
    | ok _ => simp [orphan?, action]
    | error cause =>
      have missing : cause.cause.isNotFound = true := settled
      simp [orphan?, action, missing]
  rw [orphans, List.filter_cons_of_pos hu]
  exact List.filterMap_cons_none hnone

theorem orphans_orphaned {u : PlanUnit} {target : Ref} {cause : Report GatewayError}
    (action : u.rollback = some target) (stuck : cause.cause.isNotFound = false)
    (us : List PlanUnit) (undo : List Event) :
    orphans (u :: us) (.call (.delete target) (.error cause) :: undo) =
      ⟨u, target, cause⟩ :: orphans us undo := by
  have hu : undoable u = true := by simp [undoable, action]
  have hsome : orphan? u (.error cause) = some ⟨u, target, cause⟩ := by
    simp [orphan?, action, stuck]
  rw [orphans, List.filter_cons_of_pos hu]
  exact List.filterMap_cons_some hsome

/-- The reports of undoing are those of the orphans. -/
theorem undone_failures {us : List PlanUnit} {undo : List Event} {left : List Ref}
    {failures : List (Report ProvisionError)} (undone : UnitsUndone us undo left failures) :
    failures.flatMap Report.frames = (orphans us undo).flatMap Orphan.frames := by
  induction undone with
  | nil => rfl
  | permanent action rest ih => rw [orphans_permanent action, ih]
  | undone action settled rest ih => rw [orphans_undone action settled, ih]
  | orphaned action stuck rest ih =>
    rw [orphans_orphaned action stuck, List.flatMap_cons, List.flatMap_cons, ih]
    rfl

/-- The units that stay are those that cannot be undone and the orphans. -/
theorem undone_left {us : List PlanUnit} {undo : List Event} {left : List Ref}
    {failures : List (Report ProvisionError)} (undone : UnitsUndone us undo left failures) :
    ∃ stay : List PlanUnit, stay.Sublist us ∧ left = stay.map PlanUnit.ref ∧
      stay.filter undoable = (orphans us undo).map Orphan.unit ∧
      stay.filter (fun u => !undoable u) = us.filter fun u => !undoable u := by
  induction undone with
  | nil => exact ⟨[], .slnil, rfl, rfl, rfl⟩
  | @permanent u us undo left failures action rest ih =>
    obtain ⟨stay, hsub, rfl, horphans, hpermanent⟩ := ih
    have hu : undoable u = false := by simp [undoable, action]
    refine ⟨u :: stay, hsub.cons_cons u, rfl, ?_, ?_⟩
    · rw [orphans_permanent action, ← horphans, List.filter_cons_of_neg (by simp [hu])]
    · rw [List.filter_cons_of_pos (by simp [hu]), List.filter_cons_of_pos (by simp [hu]),
        hpermanent]
  | @undone u us undo left failures target removed action settled rest ih =>
    obtain ⟨stay, hsub, rfl, horphans, hpermanent⟩ := ih
    have hu : undoable u = true := by simp [undoable, action]
    refine ⟨stay, hsub.cons u, rfl, ?_, ?_⟩
    · rw [orphans_undone action settled, horphans]
    · rw [List.filter_cons_of_neg (by simp [hu]), hpermanent]
  | @orphaned u us undo left failures target cause action stuck rest ih =>
    obtain ⟨stay, hsub, rfl, horphans, hpermanent⟩ := ih
    have hu : undoable u = true := by simp [undoable, action]
    refine ⟨u :: stay, hsub.cons_cons u, rfl, ?_, ?_⟩
    · rw [orphans_orphaned action stuck, List.filter_cons_of_pos hu, horphans]
      rfl
    · rw [List.filter_cons_of_neg (by simp [hu]), List.filter_cons_of_neg (by simp [hu]),
        hpermanent]

/-- An orphan is a unit whose compensating delete is among the events and failed. -/
theorem undone_stuck {us : List PlanUnit} {undo : List Event} {left : List Ref}
    {failures : List (Report ProvisionError)} (undone : UnitsUndone us undo left failures) :
    ∀ o ∈ orphans us undo, o.unit.rollback = some o.target ∧
      .call (.delete o.target) (.error o.cause) ∈ undo ∧ o.cause.cause.isNotFound = false := by
  induction undone with
  | nil =>
    intro o h
    cases h
  | permanent action rest ih => rwa [orphans_permanent action]
  | undone action settled rest ih =>
    rw [orphans_undone action settled]
    intro o h
    obtain ⟨haction, hmem, stuck⟩ := ih o h
    exact ⟨haction, List.mem_cons_of_mem _ (List.mem_cons_of_mem _ hmem), stuck⟩
  | orphaned action stuck rest ih =>
    rw [orphans_orphaned action stuck]
    intro o h
    obtain rfl | h := List.mem_cons.mp h
    · exact ⟨action, List.mem_cons_self, stuck⟩
    · obtain ⟨haction, hmem, stuck'⟩ := ih o h
      exact ⟨haction, List.mem_cons_of_mem _ hmem, stuck'⟩

/-! ### The report -/

theorem stepFails_of_unitFails {u : PlanUnit} {tried : List Event}
    {report : Report ProvisionError} (fails : UnitFails u tried report) :
    ∃ step cause, StepFails u tried step cause ∧ report.cause = .transport step ∧
      report.frames = stepFrames step cause := by
  cases fails with
  | atDelete stuck => exact ⟨_, _, .atDelete stuck, rfl, rfl⟩
  | atCreate settled => exact ⟨_, _, .atCreate settled, rfl, rfl⟩

theorem planFailure_cause (made : List PlanUnit) (failed : PlanUnit)
    (report : Report ProvisionError) : (planFailure made failed report).cause =
      if made.isEmpty then report.cause else .partialProvision failed.ref := by
  unfold planFailure
  split <;> rfl

theorem planFailure_frames (made : List PlanUnit) (failed : PlanUnit)
    (report : Report ProvisionError) : (planFailure made failed report).frames =
      (stopErrors made failed).map .provision ++ report.frames := by
  unfold planFailure stopErrors
  split <;> rfl

/-- The error of the provisioner that a frame holds. -/
def ownError? : Frame → Option ProvisionError
  | .provision error => some error
  | _ => none

theorem provisionErrors_eq (report : Report ProvisionError) :
    provisionErrors report = report.frames.filterMap ownError? := rfl

theorem ownError_provision (errors : List ProvisionError) :
    (errors.map Frame.provision).filterMap ownError? = errors := by
  rw [List.filterMap_map]
  exact List.filterMap_some

theorem ownError_none {frames : List Frame} (own : ∀ error, Frame.provision error ∉ frames) :
    frames.filterMap ownError? = [] := by
  rw [List.filterMap_eq_nil_iff]
  intro frame hframe
  cases frame with
  | provision error => exact absurd hframe (own error)
  | gateway | quantity | shape | number | note => rfl

theorem ownError_stepFrames (step : ClusterStep) {cause : Report GatewayError}
    (own : ∀ error, Frame.provision error ∉ cause.frames) :
    (stepFrames step cause).filterMap ownError? = [.transport step] := by
  have hcause := ownError_none own
  cases step <;>
    simp only [stepFrames, List.filterMap_append, List.filterMap_cons, List.filterMap_nil, hcause,
      ownError?, List.nil_append]

theorem ownError_orphans {os : List Orphan}
    (own : ∀ o ∈ os, ∀ error, Frame.provision error ∉ o.cause.frames) :
    (os.flatMap Orphan.frames).filterMap ownError? = os.flatMap Orphan.errors := by
  induction os with
  | nil => rfl
  | cons o os ih =>
    obtain ⟨ho, hos⟩ := List.forall_mem_cons.mp own
    rw [List.flatMap_cons, List.filterMap_append, ih hos, List.flatMap_cons, Orphan.frames,
      List.filterMap_append, ownError_provision, ownError_none ho, List.append_nil]

theorem stepFails_cause {g : Gateway σ} {s s' : σ} {u : PlanUnit} {tried : List Event}
    {step : ClusterStep} {cause : Report GatewayError} (fails : StepFails u tried step cause)
    (served : Serves g s tried s') (own : OwnReports g) :
    ∀ error, Frame.provision error ∉ cause.frames := by
  cases fails with
  | atDelete _ =>
    obtain ⟨t, hanswer⟩ := serves_mem served List.mem_cons_self
    exact own.1 _ t cause hanswer
  | atCreate _ =>
    obtain ⟨t, hanswer⟩ := serves_mem served (List.mem_cons_of_mem _ List.mem_cons_self)
    exact own.2 _ _ _ t cause hanswer

/-- What a report with these frames says, wherever the cluster is the one that reported them. -/
theorem errors_of_frames {g : Gateway σ} {s t s' : σ} {made : List PlanUnit} {failed : PlanUnit}
    {tried undo : List Event} {step : ClusterStep} {cause : Report GatewayError}
    {os : List Orphan} {report : Report ProvisionError}
    (frames : report.frames = (stopErrors made failed).map .provision ++ stepFrames step cause ++
      os.flatMap Orphan.frames)
    (fails : StepFails failed tried step cause)
    (stuck : ∀ o ∈ os, .call (.delete o.target) (.error o.cause) ∈ undo)
    (first : Serves g s tried t) (second : Serves g t undo s') (own : OwnReports g) :
    provisionErrors report =
      stopErrors made failed ++ .transport step :: os.flatMap Orphan.errors := by
  have hcause := stepFails_cause fails first own
  have horphans : ∀ o ∈ os, ∀ error, Frame.provision error ∉ o.cause.frames := by
    intro o ho
    obtain ⟨s₁, hanswer⟩ := serves_mem second (stuck o ho)
    exact own.1 _ s₁ _ hanswer
  rw [provisionErrors_eq, frames, List.filterMap_append, List.filterMap_append, ownError_provision,
    ownError_stepFrames step hcause, ownError_orphans horphans, List.append_assoc]
  rfl

/-! ### Gateways that report their own errors -/

theorem ownReports_of_causes {g : Gateway σ} (deletes : OwnErrors g)
    (creates : ∀ ns kind manifest s report,
      (g.answer (.create ns kind manifest) s).1 = .error report → ∃ cause, report = .of cause) :
    OwnReports g := by
  refine ⟨deletes, fun ns kind manifest s report h error => ?_⟩
  obtain ⟨cause, rfl⟩ := creates ns kind manifest s report h
  simp [Report.frames, Report.of, Reportable.frames]

theorem memoryCluster_ownReports : OwnReports MemoryCluster.gateway := by
  refine ownReports_of_causes memoryCluster_ownErrors fun ns kind manifest c report h => ?_
  change (c.create ns kind manifest).1 = .error report at h
  unfold MemoryCluster.create at h
  split at h
  next =>
    cases h
    exact ⟨_, rfl⟩
  next name _ =>
    dsimp only at h
    rcases hrecord : c.record .create ⟨kind, ns, name⟩ with ⟨fault | _, d⟩
    · rw [hrecord] at h
      cases h
      unfold MemoryCluster.record at hrecord
      dsimp only at hrecord
      split at hrecord <;> cases hrecord
      exact ⟨_, rfl⟩
    · rw [hrecord] at h
      dsimp only at h
      split at h <;> cases h
      exact ⟨_, rfl⟩

theorem apiServer_ownReports (exchange : HttpRequest → σ → HttpReply × σ) :
    OwnReports (ApiServer.gatewayOver exchange) := by
  refine ownReports_of_causes (apiServer_ownErrors exchange) fun ns kind manifest s report h => ?_
  unfold ApiServer.gatewayOver at h
  dsimp only at h
  split at h
  next unsent =>
    cases h
    exact apiServer_request_cause unsent
  next r sent =>
    dsimp only at h
    cases hreply : (exchange r s).1 with
    | failed problem =>
      rw [hreply] at h
      cases h
      exact callFailure_cause _ _
    | answered status body =>
      rw [hreply] at h
      dsimp only [ApiServer.result] at h
      split at h
      · cases h
        exact apiError_cause _ _
      · dsimp only [ApiServer.answer] at h
        split at h <;> cases h
        exact callFailure_cause _ _

/-! ### Failed plans -/

section
variable {g : Gateway σ} {s t s' : σ} {made : List PlanUnit} {failed : PlanUnit}
  {tried undo : List Event} {step : ClusterStep} {cause : Report GatewayError}
  {report : Report ProvisionError} {failures : List (Report ProvisionError)}

/-- The report of a plan that stops is what its parts say, whatever is left. -/
theorem stopReported_of {created : List Ref} (fails : StepFails failed tried step cause)
    (first : Serves g s tried t) (second : Serves g t undo s')
    (hcause : report.cause = .transport step) (hframes : report.frames = stepFrames step cause)
    (hfailures : failures.flatMap Report.frames =
      (orphans made.reverse undo).flatMap Orphan.frames)
    (stuck : ∀ o ∈ orphans made.reverse undo, o.unit.rollback = some o.target ∧
      .call (.delete o.target) (.error o.cause) ∈ undo ∧ o.cause.cause.isNotFound = false)
    (kept : failed.onFailure = .keepCreated →
      created = made.map PlanUnit.ref ∧ orphans made.reverse undo = [])
    (left : failed.onFailure = .rollBackCreated → ∃ stay : List PlanUnit, stay.Sublist made ∧
      created = stay.map PlanUnit.ref ∧
      stay.filter undoable = ((orphans made.reverse undo).map Orphan.unit).reverse ∧
      stay.filter (fun u => !undoable u) = made.filter fun u => !undoable u) :
    let whole := failures.foldl Report.combine (planFailure made failed report)
    StopReported g made failed undo step cause ⟨created, none, some whole⟩ whole := by
  have frames : (failures.foldl Report.combine (planFailure made failed report)).frames =
      (stopErrors made failed).map .provision ++ stepFrames step cause ++
        (orphans made.reverse undo).flatMap Orphan.frames := by
    rw [frames_foldl_combine, planFailure_frames, hframes, hfailures]
  refine ⟨?_, frames, ?_, stuck, kept, left⟩
  · rw [cause_foldl_combine, planFailure_cause, hcause]
  · exact errors_of_frames frames fails (fun o h => (stuck o h).2.1) first second

theorem stopReported_kept (policy : failed.onFailure = .keepCreated)
    (fails : StepFails failed tried step cause) (served : Serves g s tried s')
    (hcause : report.cause = .transport step) (hframes : report.frames = stepFrames step cause) :
    StopReported g made failed [] step cause
      ⟨made.map PlanUnit.ref, none, some (planFailure made failed report)⟩
      (planFailure made failed report) := by
  have none : orphans made.reverse [] = [] := by
    unfold orphans deleteAnswers
    rw [List.filterMap_nil, List.zip_nil_right, List.filterMap_nil]
  have hfailures : ([] : List (Report ProvisionError)).flatMap Report.frames =
      (orphans made.reverse []).flatMap Orphan.frames := by
    rw [none]
    rfl
  have stuck : ∀ o ∈ orphans made.reverse [], o.unit.rollback = some o.target ∧
      .call (.delete o.target) (.error o.cause) ∈ ([] : List Event) ∧
        o.cause.cause.isNotFound = false := by
    rw [none]
    exact nofun
  have idle : Serves g s' [] s' := rfl
  have reported := stopReported_of fails served idle hcause hframes hfailures stuck
    (fun _ => ⟨rfl, none⟩) (fun rolls => absurd (policy.symm.trans rolls) nofun)
  exact reported

theorem stopReported_rolledBack {left : List Ref} (policy : failed.onFailure = .rollBackCreated)
    (fails : StepFails failed tried step cause) (first : Serves g s tried t)
    (second : Serves g t undo s') (undone : UnitsUndone made.reverse undo left failures)
    (hcause : report.cause = .transport step) (hframes : report.frames = stepFrames step cause) :
    StopReported g made failed undo step cause
      ⟨left.reverse, none, some (failures.foldl Report.combine (planFailure made failed report))⟩
      (failures.foldl Report.combine (planFailure made failed report)) := by
  refine stopReported_of fails first second hcause hframes (undone_failures undone)
    (undone_stuck undone) ?_ fun _ => ?_
  · rw [policy]
    exact nofun
  · obtain ⟨stay, hsub, rfl, horphans, hpermanent⟩ := undone_left undone
    refine ⟨stay.reverse, ?_, List.map_reverse.symm, ?_, ?_⟩
    · have h := hsub.reverse
      rwa [List.reverse_reverse] at h
    · rw [List.filter_reverse, horphans]
    · rw [List.filter_reverse, hpermanent, List.filter_reverse, List.reverse_reverse]

end

/-- A plan that fails and is not cancelled stops at a unit, and its report names this unit if others
were created, how its delete or create failed, and each orphan of the rollback. Except for units
that cannot be undone these orphans are what the result still lists. -/
theorem failure_reported (g : Gateway σ) (s : σ) (us : List PlanUnit) (cancel : Cancellation) :
    let (result, _, events) := (Apply.units us cancel).run g s
    ∀ report, result.error = some report →
      (NeverFires cancel us ∨ ∀ n, report.cause ≠ .cancelled n) →
      ∃ made failed after done tried undo step cause, us = made ++ failed :: after ∧
        events = done ++ (tried ++ undo) ∧ UnitsCreated made done ∧
        StepFails failed tried step cause ∧ callTrail undo = compensations made failed ∧
        StopReported g made failed undo step cause result report := by
  rcases h : (Apply.units us cancel).run g s with ⟨result, s', events⟩
  obtain ⟨traced, served⟩ := (run_eq_iff _ _ _ _ _ _).mp h
  obtain ⟨made, rest, done, tail, rfl, rfl, created, ending⟩ := course_of_traces traced
  obtain ⟨t, -, htail⟩ := (serves_append _ _ _ _ _).mp served
  intro report reported notCancelled
  cases ending with
  | completed => cases reported
  | cancelled abandoned =>
    cases reported
    obtain silent | other := notCancelled
    · exact absurd abandoned (not_abandoned silent rfl)
    · exact absurd rfl (other made.length)
  | @kept u rest tried failure fails policy =>
    cases reported
    obtain ⟨step, cause, stepFails, hcause, hframes⟩ := stepFails_of_unitFails fails
    have trail : callTrail [] = compensations made u := by
      rw [compensations, if_neg (by simp [policy])]
      rfl
    exact ⟨made, u, rest, done, tail, [], step, cause, rfl, by rw [List.append_nil], created,
      stepFails, trail, stopReported_kept policy stepFails htail hcause hframes⟩
  | @rolledBack u rest tried undo failure left failures fails policy undone =>
    cases reported
    obtain ⟨step, cause, stepFails, hcause, hframes⟩ := stepFails_of_unitFails fails
    obtain ⟨middle, first, second⟩ := (serves_append _ _ _ _ _).mp htail
    have trail : callTrail undo = compensations made u := by
      rw [compensations, if_pos policy, callTrail_unitsUndone undone]
    exact ⟨made, u, rest, done, tried, undo, step, cause, rfl, rfl, created, stepFails, trail,
      stopReported_rolledBack policy stepFails first second undone hcause hframes⟩

/-- Where the route fails and the pod is deleted only once, the pod is the orphan; the service stays
without being reported. -/
theorem failure_reported_three_units :
    let (result, _, events) :=
      (Apply.units threeUnits .never).run MemoryCluster.gateway failingCluster
    ∃ report, result.error = some report ∧ NeverFires .never threeUnits ∧
      (∃ made failed after done tried undo step cause, threeUnits = made ++ failed :: after ∧
        events = done ++ (tried ++ undo) ∧ UnitsCreated made done ∧
        StepFails failed tried step cause ∧ callTrail undo = compensations made failed ∧
        StopReported MemoryCluster.gateway made failed undo step cause result report) ∧
      provisionErrors report =
        [.partialProvision ⟨.virtualService, "ns", "three"⟩,
          .transport (.create ⟨.virtualService, "ns", "three"⟩),
          .rollbackFailed ⟨.pod, "ns", "one"⟩, .transport (.delete ⟨.pod, "ns", "one"⟩)] ∧
      result.created = [⟨.pod, "ns", "one"⟩, ⟨.service, "ns", "two"⟩] := by
  have silent : NeverFires .never threeUnits := fun _ _ _ => ⟨rfl, rfl⟩
  have reported := failure_reported MemoryCluster.gateway failingCluster threeUnits .never
  have failed : ((Apply.units threeUnits .never).run MemoryCluster.gateway
      failingCluster).1.error.map provisionErrors =
        some [.partialProvision ⟨.virtualService, "ns", "three"⟩,
          .transport (.create ⟨.virtualService, "ns", "three"⟩),
          .rollbackFailed ⟨.pod, "ns", "one"⟩, .transport (.delete ⟨.pod, "ns", "one"⟩)] := by
    decide
  obtain ⟨report, hreport, herrors⟩ := Option.map_eq_some_iff.mp failed
  exact ⟨report, hreport, silent, reported report hreport (.inl silent), herrors, by decide⟩

end ClusterProvisioning.Proofs
