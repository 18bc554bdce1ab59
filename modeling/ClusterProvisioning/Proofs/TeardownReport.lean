import ClusterProvisioning.Gateway.ApiServer
import ClusterProvisioning.Proofs.TeardownCourse

/-!
# What a teardown reports

A teardown makes one delete for each entry of its list, the last entry first, whatever fails, and
reports each delete that left its object in place (`TornDown`). On a cluster in memory everything
else on the list is gone afterwards, and a teardown that is made again finds nothing left to do
(`Cleared`).
-/

namespace ClusterProvisioning.Proofs
open Program MemoryCluster

variable {σ : Type} {targets : List Ref} {events : List Event} {answer : Outcome Unit}
  {failures : List (Report ProvisionError)}

/-- The history of a delete that failed: the step of the provisioner, above what the cluster
reports. -/
def deleteFrames (failed : Ref × Report GatewayError) : List Frame :=
  .provision (.transport (.delete failed.1)) :: failed.2.frames

/-- The errors of the provisioner itself in a report, the outermost first. -/
def provisionErrors (report : Report ProvisionError) : List ProvisionError :=
  report.frames.filterMap fun
    | .provision error => some error
    | _ => none

/-- The gateway reports no errors of the provisioner when it fails to delete. Clusters in memory and
API servers are such gateways. -/
def OwnErrors (g : Gateway σ) : Prop :=
  ∀ target s report, (g.answer (.delete target) s).1 = .error report →
    ∀ error, Frame.provision error ∉ report.frames

/-- What a teardown does and answers on any gateway. -/
structure TornDown (g : Gateway σ) (targets : List Ref) (answer : Outcome Unit)
    (events : List Event) : Prop where
  /-- Every entry is deleted once, in reverse order. -/
  calls : callTrail events = targets.reverse.map .delete
  ok : answer = .ok () ↔ ∀ (target : Ref) (removed : (GatewayCall.delete target).Result),
    .call (.delete target) removed ∈ events → Settles removed
  frames : ∀ report, answer = .error report →
    report.frames = (failedDeletes events).flatMap deleteFrames
  transports : OwnErrors g → ∀ report, answer = .error report →
    provisionErrors report = (failedDeletes events).map fun failed => .transport (.delete failed.1)

/-- What a teardown leaves on a cluster in memory. -/
structure Cleared (targets : List Ref) (c c' : MemoryCluster) (events : List Event) : Prop where
  gone : ∀ target ∈ targets, target ∉ (failedDeletes events).map Prod.fst →
    c'.object? target = none
  kept : ∀ other, other ∉ targets → c'.object? other = c.object? other
  /-- Where deletes pass the teardown can be made again, and changes nothing. -/
  again : Passes c .delete →
    let (answer, c'', _) := (Apply.teardown targets).run gateway c'
    answer = .ok () ∧ SameObjects c' c''
  /-- Once deletes pass the teardown can be completed. -/
  completed : ∀ d, SameObjects c' d → Passes d .delete →
    let (answer, d', _) := (Apply.teardown targets).run gateway d
    answer = .ok () ∧ (∀ target ∈ targets, d'.object? target = none) ∧
      ∀ other, other ∉ (failedDeletes events).map Prod.fst → d'.object? other = d.object? other

/-! ### Reports -/

theorem mem_failedDeletes {target : Ref} {report : Report GatewayError} :
    (target, report) ∈ failedDeletes events ↔
      .call (.delete target) (.error report) ∈ events ∧ report.cause.isNotFound = false := by
  simp only [failedDeletes, List.mem_filterMap]
  constructor
  · rintro ⟨event, hmem, h⟩
    split at h
    next found other =>
      split at h
      · cases h
      next stuck =>
        cases h
        exact ⟨hmem, by simpa using stuck⟩
    next => cases h
  · rintro ⟨hmem, stuck⟩
    exact ⟨_, hmem, by simp [stuck]⟩

/-- No delete failed exactly when all of them settled. -/
theorem failedDeletes_nil : failedDeletes events = [] ↔
    ∀ (target : Ref) (removed : (GatewayCall.delete target).Result),
      .call (.delete target) removed ∈ events → Settles removed := by
  rw [List.eq_nil_iff_forall_not_mem]
  constructor
  · intro none target removed hmem
    cases removed with
    | ok _ => trivial
    | error report =>
      by_contra stuck
      exact none (target, report) (mem_failedDeletes.mpr ⟨hmem, Bool.eq_false_iff.mpr stuck⟩)
  · rintro settles ⟨target, report⟩ h
    obtain ⟨hmem, stuck⟩ := mem_failedDeletes.mp h
    exact Bool.false_ne_true (stuck.symm.trans (settles target _ hmem))

/-- A combined report consists of the reports that it combines, in order. -/
theorem frames_foldl_combine (failures : List (Report ProvisionError))
    (first : Report ProvisionError) :
    (failures.foldl Report.combine first).frames =
      first.frames ++ failures.flatMap Report.frames := by
  induction failures generalizing first with
  | nil => simp
  | cons failure failures ih =>
    rw [List.foldl_cons, ih, Report.frames_combine, List.flatMap_cons, List.append_assoc]

theorem foldl_addFailure (failures : List (Report ProvisionError))
    (first : Report ProvisionError) :
    failures.foldl Apply.addFailure (some first) = some (failures.foldl Report.combine first) := by
  induction failures generalizing first with
  | nil => rfl
  | cons failure failures ih => exact ih _

/-- The answer of a teardown is a report if there are failures, and it consists of them. -/
theorem sweepAnswer_cases (failures : List (Report ProvisionError)) :
    (failures = [] ∧ sweepAnswer (failures.foldl Apply.addFailure none) = .ok ()) ∨
      ∃ report, failures ≠ [] ∧
        sweepAnswer (failures.foldl Apply.addFailure none) = .error report ∧
        report.frames = failures.flatMap Report.frames := by
  cases failures with
  | nil => exact .inl ⟨rfl, rfl⟩
  | cons first failures =>
    refine .inr ⟨failures.foldl Report.combine first, List.cons_ne_nil _ _, ?_, ?_⟩
    · exact congrArg sweepAnswer (foldl_addFailure failures first)
    · rw [frames_foldl_combine, List.flatMap_cons]

/-! ### Own errors -/

theorem ownErrors_of_causes {g : Gateway σ}
    (causes : ∀ target s report, (g.answer (.delete target) s).1 = .error report →
      ∃ cause, report = .of cause) : OwnErrors g := by
  intro target s report h error
  obtain ⟨cause, rfl⟩ := causes target s report h
  simp [Report.frames, Report.of, Reportable.frames]

theorem memoryCluster_ownErrors : OwnErrors MemoryCluster.gateway := by
  refine ownErrors_of_causes fun target c report h => ?_
  change (c.delete target).1 = .error report at h
  unfold MemoryCluster.delete at h
  rcases hrecord : c.record .delete target with ⟨fault | _, d⟩
  · rw [hrecord] at h
    cases h
    unfold MemoryCluster.record at hrecord
    dsimp only at hrecord
    split at hrecord <;> cases hrecord
    exact ⟨_, rfl⟩
  · rw [hrecord] at h
    dsimp only at h
    split at h <;> cases h
    exact ⟨_, rfl⟩

theorem callFailure_cause (call : GatewayCall) (problem : String) :
    ∃ cause, ApiServer.callFailure call problem = .of cause := by
  cases call <;> exact ⟨_, rfl⟩

theorem apiError_cause (call : GatewayCall) (e : ApiServer.ApiError) :
    ∃ cause, e.report call = .of cause := by
  unfold ApiServer.ApiError.report
  split
  · exact callFailure_cause _ _
  · exact callFailure_cause _ _
  · split
    · exact ⟨_, rfl⟩
    · split
      · exact ⟨_, rfl⟩
      · exact callFailure_cause _ _

theorem apiServer_request_cause {call : GatewayCall} {report : Report GatewayError}
    (unsent : ApiServer.request call = .error report) : ∃ cause, report = .of cause := by
  unfold ApiServer.request at unsent
  rcases hdraft : ApiServer.draft call with problem | r
  · rw [hdraft] at unsent
    cases unsent
    cases call <;> dsimp only [ApiServer.draft] at hdraft <;> (try split at hdraft) <;>
      cases hdraft <;> exact ⟨_, rfl⟩
  · rw [hdraft] at unsent
    dsimp only [Bind.bind, Except.bind] at unsent
    split at unsent
    · cases unsent
    · cases unsent
      exact callFailure_cause _ _

theorem apiServer_ownErrors (exchange : HttpRequest → σ → HttpReply × σ) :
    OwnErrors (ApiServer.gatewayOver exchange) := by
  refine ownErrors_of_causes fun target s report h => ?_
  unfold ApiServer.gatewayOver at h
  dsimp only at h
  split at h
  next unsent =>
    cases h
    exact apiServer_request_cause unsent
  next r sent =>
    dsimp only at h
    cases hreply : (exchange r s).1 with
    | failed problem =>
      rw [hreply] at h
      cases h
      exact callFailure_cause _ _
    | answered status body =>
      rw [hreply] at h
      dsimp only [ApiServer.result] at h
      split at h
      · cases h
        exact apiError_cause _ _
      · dsimp only [ApiServer.answer] at h
        split at h <;> cases h
        exact ⟨_, rfl⟩

/-! ### Any gateway -/

theorem swept_calls (swept : Swept targets events failures) :
    callTrail events = targets.map .delete := by
  induction swept with
  | nil => rfl
  | gone settled rest ih => exact congrArg (List.cons _) ih
  | stuck stuck rest ih => exact congrArg (List.cons _) ih

theorem provisionErrors_deletes {failed : List (Ref × Report GatewayError)}
    {report : Report ProvisionError} (frames : report.frames = failed.flatMap deleteFrames)
    (own : ∀ entry ∈ failed, ∀ error, Frame.provision error ∉ entry.2.frames) :
    provisionErrors report = failed.map fun entry => .transport (.delete entry.1) := by
  rw [provisionErrors, frames]
  clear frames
  induction failed with
  | nil => rfl
  | cons entry failed ih =>
    obtain ⟨hentry, hfailed⟩ := List.forall_mem_cons.mp own
    have none : entry.2.frames.filterMap (fun
        | .provision error => some error
        | _ => none) = ([] : List ProvisionError) := by
      rw [List.filterMap_eq_nil_iff]
      intro frame hframe
      cases frame with
      | provision error => exact absurd hframe (hentry error)
      | gateway | quantity | shape | number | note => rfl
    rw [List.flatMap_cons, List.filterMap_append, ih hfailed, deleteFrames, List.filterMap_cons,
      none]
    rfl

theorem tornDown_of_traces {g : Gateway σ} {s s' : σ}
    (traced : Traces (Apply.teardown targets) events answer) (served : Serves g s events s') :
    TornDown g targets answer events := by
  obtain ⟨failures, swept, rfl⟩ := traces_deleteAll traced
  have hfailures := swept_failures swept
  have frames : ∀ report, sweepAnswer (failures.foldl Apply.addFailure none) = .error report →
      report.frames = (failedDeletes events).flatMap deleteFrames := by
    intro report h
    rcases sweepAnswer_cases failures with ⟨-, hok⟩ | ⟨combined, -, herror, hframes⟩
    · cases hok.symm.trans h
    · cases herror.symm.trans h
      rw [hframes, hfailures, List.flatMap_map]
      rfl
  refine ⟨swept_calls swept, ?_, frames, fun own report h => ?_⟩
  · rw [← failedDeletes_nil]
    constructor
    · intro h
      rcases sweepAnswer_cases failures with ⟨hnone, -⟩ | ⟨combined, -, herror, -⟩
      · exact List.map_eq_nil_iff.mp (hfailures.symm.trans hnone)
      · cases herror.symm.trans h
    · intro h
      rw [hfailures, h]
      rfl
  · refine provisionErrors_deletes (frames report h) ?_
    rintro ⟨target, report⟩ hentry
    obtain ⟨t, hanswer⟩ := serves_mem served (mem_failedDeletes.mp hentry).1
    exact own target t report hanswer

/-! ### Clusters in memory -/

theorem teardown_run (targets : List Ref) (c : MemoryCluster) :
    ∃ answer c' events failures, (Apply.teardown targets).run gateway c = (answer, c', events) ∧
      Swept targets.reverse events failures ∧ Serves gateway c events c' ∧
      answer = sweepAnswer (failures.foldl Apply.addFailure none) := by
  rcases h : (Apply.teardown targets).run gateway c with ⟨answer, c', events⟩
  obtain ⟨traced, served⟩ := (run_eq_iff _ _ _ _ _ _).mp h
  obtain ⟨failures, swept, rfl⟩ := traces_deleteAll traced
  exact ⟨_, c', events, failures, rfl, swept, served, rfl⟩

theorem cleared_of_swept {c c' : MemoryCluster}
    (swept : Swept targets.reverse events failures) (served : Serves gateway c events c') :
    Cleared targets c c' events := by
  have gone : ∀ target ∈ targets, target ∉ (failedDeletes events).map Prod.fst →
      c'.object? target = none := fun target htarget =>
    swept_gone swept served target (List.mem_reverse.mpr htarget)
  have completed : ∀ d, SameObjects c' d → Passes d .delete →
      let (answer, d', _) := (Apply.teardown targets).run gateway d
      answer = .ok () ∧ (∀ target ∈ targets, d'.object? target = none) ∧
        ∀ other, other ∉ (failedDeletes events).map Prod.fst →
          d'.object? other = d.object? other := by
    intro d same passes
    obtain ⟨answer, d', later, others, hrun, again, hserved, rfl⟩ := teardown_run targets d
    obtain rfl := swept_passes again passes hserved
    rw [hrun]
    refine ⟨rfl, fun target htarget => ?_, fun other hother => ?_⟩
    · exact swept_cleared again hserved target (List.mem_reverse.mpr htarget)
    · by_cases hin : other ∈ targets
      · have habsent : d.object? other = none := (same other).trans (gone other hin hother)
        rw [habsent]
        exact swept_absent again hserved habsent
      · exact swept_kept again hserved fun h => hin (List.mem_reverse.mp h)
  refine ⟨gone, fun other hother => ?_, fun passes => ?_, completed⟩
  · exact swept_kept swept served fun h => hother (List.mem_reverse.mp h)
  · obtain rfl := swept_passes swept passes served
    have passes' : Passes c' .delete :=
      serves_preserves (Passes · .delete) (fun call _ _ h => answer_passes h call) served passes
    obtain ⟨hanswer, -, same⟩ := completed c' (fun _ => rfl) passes'
    refine ⟨hanswer, fun target => same target ?_⟩
    rw [failedDeletes_swept swept]
    exact List.not_mem_nil

/-- A teardown deletes every entry and reports exactly what it could not delete; on a cluster in
memory nothing else on the list is left, and no other object is touched. -/
theorem teardown_reported (targets : List Ref) :
    (∀ (σ : Type) (g : Gateway σ) (s : σ),
      let (answer, _, events) := (Apply.teardown targets).run g s
      TornDown g targets answer events) ∧
    ∀ c : MemoryCluster,
      let (_, c', events) := (Apply.teardown targets).run gateway c
      Cleared targets c c' events := by
  constructor
  · intro σ g s
    rcases h : (Apply.teardown targets).run g s with ⟨answer, s', events⟩
    obtain ⟨traced, served⟩ := (run_eq_iff _ _ _ _ _ _).mp h
    exact tornDown_of_traces traced served
  · intro c
    obtain ⟨answer, c', events, failures, hrun, swept, served, -⟩ := teardown_run targets c
    rw [hrun]
    exact cleared_of_swept swept served

end ClusterProvisioning.Proofs
