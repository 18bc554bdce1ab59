import ClusterProvisioning.Lifecycle
import ClusterProvisioning.Proofs.UnarmedCluster

/-!
# The course of a teardown and of a reset

A teardown deletes every target once, the last first, and goes on whatever fails. `Swept` says what
happens to each target; the answer combines the reports of the deletes that fail, in order. On a
cluster without faults none fails, and no target is left (`teardown_unarmed`).

A reset tears the recorded units down and applies the plan of the request again, that of a session
under its old names (`course_of_reset`).
-/

namespace ClusterProvisioning.Proofs
open Program MemoryCluster

/-- The events in which targets are deleted in the order given, whatever fails, and the reports of
the deletes that leave the object in place. -/
inductive Swept : List Ref → List Event → List (Report ProvisionError) → Prop
  | nil : Swept [] [] []
  | gone {target : Ref} {targets : List Ref} {events : List Event}
      {failures : List (Report ProvisionError)} {removed : (GatewayCall.delete target).Result}
      (settled : Settles removed) (rest : Swept targets events failures) :
      Swept (target :: targets)
        (.call (.delete target) removed :: .audit ⟨.delete, target⟩ :: events) failures
  | stuck {target : Ref} {targets : List Ref} {events : List Event}
      {failures : List (Report ProvisionError)} {report : Report GatewayError}
      (stuck : report.cause.isNotFound = false) (rest : Swept targets events failures) :
      Swept (target :: targets) (.call (.delete target) (.error report) :: events)
        (deleteFailure target report :: failures)

/-- The deletes among some events that left their object in place, with the reports of the
cluster. -/
def failedDeletes (events : List Event) : List (Ref × Report GatewayError) :=
  events.filterMap fun
    | .call (.delete target) (.error report) =>
      if report.cause.isNotFound then none else some (target, report)
    | _ => none

/-- The answer of a teardown with the combined report of its failures, if there are any. -/
def sweepAnswer : Option (Report ProvisionError) → Outcome Unit
  | some report => .error report
  | none => .ok ()

theorem traces_deleteAll {targets : List Ref} {failed : Option (Report ProvisionError)}
    {events : List Event} {a : Outcome Unit}
    (h : Traces (Apply.deleteAll failed targets) events a) :
    ∃ failures, Swept targets events failures ∧
      a = sweepAnswer (failures.foldl Apply.addFailure failed) := by
  induction targets generalizing failed events with
  | nil =>
    obtain ⟨rfl, rfl⟩ := h
    refine ⟨[], .nil, ?_⟩
    cases failed <;> rfl
  | cons target targets ih =>
    obtain ⟨deleted, first, second, rfl, hdelete, hrest⟩ := (traces_bind _ _ _ _).mp h
    obtain ⟨removed, rfl, ⟨settled, rfl⟩ | ⟨report, rfl, stuck, rfl⟩⟩ :=
      traces_deleteIfPresent hdelete
    · obtain ⟨rest, rfl, htail⟩ := (traces_record_bind _ _ _ _ _).mp hrest
      obtain ⟨failures, swept, rfl⟩ := ih htail
      exact ⟨failures, .gone settled swept, rfl⟩
    · obtain ⟨failures, swept, rfl⟩ := ih hrest
      exact ⟨_ :: failures, .stuck stuck swept, rfl⟩

theorem failedDeletes_settled {target : Ref} {removed : (GatewayCall.delete target).Result}
    (settled : Settles removed) (events : List Event) :
    failedDeletes (.call (.delete target) removed :: .audit ⟨.delete, target⟩ :: events) =
      failedDeletes events := by
  cases removed with
  | ok _ => rfl
  | error report =>
    have missing : report.cause.isNotFound = true := settled
    simp [failedDeletes, missing]

theorem failedDeletes_stuck {target : Ref} {report : Report GatewayError}
    (stuck : report.cause.isNotFound = false) (events : List Event) :
    failedDeletes (.call (.delete target) (.error report) :: events) =
      (target, report) :: failedDeletes events := by
  simp [failedDeletes, stuck]

/-- The reports of a teardown are those of the deletes that failed. -/
theorem swept_failures {targets : List Ref} {events : List Event}
    {failures : List (Report ProvisionError)} (swept : Swept targets events failures) :
    failures = (failedDeletes events).map fun failed => deleteFailure failed.1 failed.2 := by
  induction swept with
  | nil => rfl
  | gone settled rest ih => rw [failedDeletes_settled settled, ih]
  | stuck stuck rest ih => rw [failedDeletes_stuck stuck, ih, List.map_cons]

theorem failedDeletes_swept {targets : List Ref} {events : List Event}
    (swept : Swept targets events []) : failedDeletes events = [] :=
  List.map_eq_nil_iff.mp (swept_failures swept).symm

theorem swept_frame {targets : List Ref} {events : List Event}
    {failures : List (Report ProvisionError)} (swept : Swept targets events failures) :
    ∀ call ∈ callTrail events, ∃ target ∈ targets, call = .delete target := by
  induction swept with
  | nil => exact fun call hcall => absurd hcall List.not_mem_nil
  | gone settled rest ih =>
    intro call hcall
    rcases List.mem_cons.mp hcall with rfl | hcall
    · exact ⟨_, List.mem_cons_self, rfl⟩
    · obtain ⟨target, htarget, rfl⟩ := ih call hcall
      exact ⟨target, List.mem_cons_of_mem _ htarget, rfl⟩
  | stuck stuck rest ih =>
    intro call hcall
    rcases List.mem_cons.mp hcall with rfl | hcall
    · exact ⟨_, List.mem_cons_self, rfl⟩
    · obtain ⟨target, htarget, rfl⟩ := ih call hcall
      exact ⟨target, List.mem_cons_of_mem _ htarget, rfl⟩

/-- An object that is gone stays gone while others are deleted. -/
theorem swept_absent {targets : List Ref} {events : List Event}
    {failures : List (Report ProvisionError)} (swept : Swept targets events failures)
    {c c' : MemoryCluster} (served : Serves gateway c events c') {other : Ref}
    (absent : c.object? other = none) : c'.object? other = none := by
  refine serves_preserves (fun d => d.object? other = none) (fun call hcall d hd => ?_) served
    absent
  obtain ⟨target, -, rfl⟩ := swept_frame swept call hcall
  rcases delete_cases d target with ⟨report, -, -, hobjects⟩ | ⟨-, hgone, hothers⟩
  · exact (congrArg (Assoc.get? · other) hobjects).trans hd
  · by_cases h : other = target
    · rw [h]
      exact hgone
    · exact (hothers other h).trans hd

/-- Objects that are not deleted stay. -/
theorem swept_kept {targets : List Ref} {events : List Event}
    {failures : List (Report ProvisionError)} (swept : Swept targets events failures)
    {c c' : MemoryCluster} (served : Serves gateway c events c') {other : Ref}
    (outside : other ∉ targets) : c'.object? other = c.object? other := by
  refine serves_frame served fun call hcall htouched => ?_
  obtain ⟨target, htarget, rfl⟩ := swept_frame swept call hcall
  exact outside (Option.some.inj htouched ▸ htarget)

/-- Where deletes pass none of them fails. -/
theorem swept_passes {targets : List Ref} {events : List Event}
    {failures : List (Report ProvisionError)} (swept : Swept targets events failures)
    {c c' : MemoryCluster} (passes : Passes c .delete) (served : Serves gateway c events c') :
    failures = [] := by
  induction swept generalizing c with
  | nil => rfl
  | gone settled rest ih =>
    obtain ⟨d, hdelete, hrest⟩ := served
    obtain ⟨-, hfaults⟩ := delete_passes passes hdelete
    exact ih (fun name => by rw [hfaults]; exact passes name) hrest
  | stuck stuck rest ih =>
    obtain ⟨d, hdelete, -⟩ := served
    obtain ⟨settled, -⟩ := delete_passes passes hdelete
    exact absurd (stuck.symm.trans settled) Bool.false_ne_true

/-- A target of which no delete failed is gone. -/
theorem swept_gone {targets : List Ref} {events : List Event}
    {failures : List (Report ProvisionError)} (swept : Swept targets events failures)
    {c c' : MemoryCluster} (served : Serves gateway c events c') :
    ∀ target ∈ targets, target ∉ (failedDeletes events).map Prod.fst →
      c'.object? target = none := by
  induction swept generalizing c with
  | nil => exact fun target htarget => absurd htarget List.not_mem_nil
  | @gone target targets events failures removed settled rest ih =>
    obtain ⟨d, hdelete, hrest⟩ := served
    obtain ⟨habsent, -⟩ := delete_settled hdelete settled
    rw [failedDeletes_settled settled]
    intro other hother passed
    rcases List.mem_cons.mp hother with rfl | hother
    · exact swept_absent rest hrest habsent
    · exact ih hrest other hother passed
  | @stuck target targets events failures report stuck rest ih =>
    obtain ⟨d, hdelete, hrest⟩ := served
    rw [failedDeletes_stuck stuck, List.map_cons]
    intro other hother passed
    have hne : other ≠ target := List.ne_of_not_mem_cons passed
    exact ih hrest other ((List.mem_cons.mp hother).resolve_left hne)
      (List.not_mem_of_not_mem_cons passed)

/-- Where no delete failed every target is gone. -/
theorem swept_cleared {targets : List Ref} {events : List Event} (swept : Swept targets events [])
    {c c' : MemoryCluster} (served : Serves gateway c events c') :
    ∀ target ∈ targets, c'.object? target = none := by
  intro target htarget
  refine swept_gone swept served target htarget ?_
  rw [failedDeletes_swept swept]
  exact List.not_mem_nil

/-- On a cluster without faults a teardown succeeds, leaves none of its targets, changes no other
object, and brings back none that was gone. -/
theorem teardown_unarmed {targets : List Ref} {c c' : MemoryCluster} {events : List Event}
    {a : Outcome Unit} (unarmed : Unarmed c) (traced : Traces (Apply.teardown targets) events a)
    (served : Serves gateway c events c') :
    a = .ok () ∧ Unarmed c' ∧ (∀ target ∈ targets, c'.object? target = none) ∧
      ∀ other, other ∉ targets → c'.object? other = c.object? other := by
  obtain ⟨failures, swept, rfl⟩ := traces_deleteAll traced
  obtain rfl := swept_passes swept (unarmed.passes .delete) served
  refine ⟨rfl, serves_unarmed unarmed served, fun target htarget => ?_, fun other hother => ?_⟩
  · exact swept_cleared swept served target (List.mem_reverse.mpr htarget)
  · exact swept_kept swept served fun h => hother (List.mem_reverse.mp h)

/-! ### Resets -/

/-- The suffix for the names of a workload that is reset. -/
def resetSuffix (request : WorkloadRequest) (units : List Ref) (fresh : String) : String :=
  (Lifecycle.recordedSuffix? request.kind units).getD fresh

/-- What a reset can do, and its outcome. -/
inductive ResetCourse (config : Config) (request : WorkloadRequest) (units : List Ref)
    (fresh : String) : List Event → Outcome ApplyResult → Prop
  | unbuilt {report : Report ProvisionError}
      (unbuilt : Plan.build config request (resetSuffix request units fresh) = .error report) :
      ResetCourse config request units fresh [] (.error report)
  | stuck {plan : Plan} {events : List Event} {report : Report ProvisionError}
      (built : Plan.build config request (resetSuffix request units fresh) = .ok plan)
      (swept : Traces (Apply.teardown units) events (.error report)) :
      ResetCourse config request units fresh events
        (.error (report.withNote "failed to remove the workload before reset"))
  | applied {plan : Plan} {first second : List Event} {result : ApplyResult}
      (built : Plan.build config request (resetSuffix request units fresh) = .ok plan)
      (swept : Traces (Apply.teardown units) first (.ok ()))
      (carried : Traces (Lifecycle.applyPlan plan .never) second result) :
      ResetCourse config request units fresh (first ++ second) (.ok result)

theorem course_of_reset {config : Config} {request : WorkloadRequest} {units : List Ref}
    {fresh : String} {events : List Event} {outcome : Outcome ApplyResult}
    (h : Traces (Lifecycle.reset config request units fresh) events outcome) :
    ResetCourse config request units fresh events outcome := by
  unfold Lifecycle.reset at h
  split at h
  next report unbuilt =>
    obtain ⟨rfl, rfl⟩ := h
    exact .unbuilt unbuilt
  next plan built =>
    obtain ⟨answer, first, second, rfl, swept, hrest⟩ := (traces_bind _ _ _ _).mp h
    cases answer with
    | error report =>
      obtain ⟨rfl, rfl⟩ := hrest
      rw [List.append_nil]
      exact .stuck built swept
    | ok _ =>
      obtain ⟨result, third, fourth, rfl, carried, rfl, rfl⟩ := (traces_bind _ _ _ _).mp hrest
      rw [List.append_nil]
      exact .applied built swept carried

/-- The suffix of a name is found again if it has no hyphen. -/
theorem nameSuffix?_hyphen (owner suffix : String) (plain : '-' ∉ suffix.toList) :
    Lifecycle.nameSuffix? s!"{owner}-{suffix}" = some suffix := by
  have hname : s!"{owner}-{suffix}".toList.reverse =
      suffix.toList.reverse ++ '-' :: owner.toList.reverse := by
    simp only [String.toList_append, List.reverse_append]
    rfl
  have hplain : ∀ c ∈ suffix.toList.reverse, (c != '-') = true := by
    intro c hc
    rw [List.mem_reverse] at hc
    exact bne_iff_ne.mpr fun h => plain (h ▸ hc)
  have hrest : ∀ rest : List Char,
      ('-' :: rest).dropWhile (· != '-') = '-' :: rest ∧ ('-' :: rest).takeWhile (· != '-') = [] :=
    fun rest => ⟨rfl, rfl⟩
  simp only [Lifecycle.nameSuffix?, hname, List.dropWhile_append_of_pos hplain,
    List.takeWhile_append_of_pos hplain, hrest, List.append_nil, List.reverse_reverse,
    String.ofList_toList]

end ClusterProvisioning.Proofs
