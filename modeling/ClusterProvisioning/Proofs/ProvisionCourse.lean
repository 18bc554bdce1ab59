import ClusterProvisioning.Lifecycle
import ClusterProvisioning.Proofs.AdmissionCourse
import ClusterProvisioning.Proofs.ApplyCourse

/-!
# The course of provisioning

Provisioning a request builds its plan, sizes it, checks admission, and applies the plan. The first
of these steps that does not go well ends it, except the last: what fails while a plan is applied
stands in the result (`course_reports`).
-/

namespace ClusterProvisioning.Proofs
open Program

/-- What provisioning a request can do, and its outcome. -/
inductive ProvisionCourse (config : Config) (request : WorkloadRequest) (suffix : String)
    (cancel : Cancellation) : List Event → Outcome Provisioned → Prop
  | refused {report : Report ProvisionError}
      (unbuilt : Plan.build config request suffix = .error report) :
      ProvisionCourse config request suffix cancel [] (.error report)
  | unsized {report : Report ProvisionError}
      (unsized : Plan.footprint config request = .error report) :
      ProvisionCourse config request suffix cancel [] (.error report)
  | unchecked {footprint : Resources} {checks : List Event} {report : Report ProvisionError}
      (sized : Plan.footprint config request = .ok footprint)
      (checked : Traces (Admission.check footprint) checks (.error report)) :
      ProvisionCourse config request suffix cancel checks (.error report)
  | denied {footprint : Resources} {checks : List Event}
      (sized : Plan.footprint config request = .ok footprint)
      (checked : Traces (Admission.check footprint) checks (.ok false)) :
      ProvisionCourse config request suffix cancel checks (.ok (.denied footprint))
  | applied {plan : Plan} {footprint : Resources} {checks tail : List Event}
      {result : ApplyResult} (built : Plan.build config request suffix = .ok plan)
      (sized : Plan.footprint config request = .ok footprint)
      (checked : Traces (Admission.check footprint) checks (.ok true))
      (carried : Traces (Lifecycle.applyPlan plan cancel) tail result) :
      ProvisionCourse config request suffix cancel (checks ++ tail) (.ok (.applied result))

theorem course_of_provision {config : Config} {request : WorkloadRequest} {suffix : String}
    {cancel : Cancellation} {events : List Event} {outcome : Outcome Provisioned}
    (h : Traces (Lifecycle.provision config request suffix cancel) events outcome) :
    ProvisionCourse config request suffix cancel events outcome := by
  unfold Lifecycle.provision at h
  split at h
  next report unbuilt =>
    obtain ⟨rfl, rfl⟩ := h
    exact .refused unbuilt
  next plan built =>
    split at h
    next report unsized =>
      obtain ⟨rfl, rfl⟩ := h
      exact .unsized unsized
    next footprint sized =>
      obtain ⟨answer, checks, tail, rfl, checked, hrest⟩ := (traces_bind _ _ _ _).mp h
      match answer, checked, hrest with
      | .error report, checked, hrest =>
        obtain ⟨rfl, rfl⟩ := hrest
        rw [List.append_nil]
        exact .unchecked sized checked
      | .ok false, checked, hrest =>
        obtain ⟨rfl, rfl⟩ := hrest
        rw [List.append_nil]
        exact .denied sized checked
      | .ok true, checked, hrest =>
        obtain ⟨result, carried, last, rfl, happly, hend⟩ := (traces_bind _ _ _ _).mp hrest
        obtain ⟨rfl, rfl⟩ := hend
        rw [List.append_nil]
        exact .applied built sized checked happly

/-! ### After admission -/

theorem resolveAccess_gets {access : Option Access} {events : List Event} {a : Option String}
    (h : Traces (Lifecycle.resolveAccess access) events a) :
    ∀ call ∈ callTrail events, ∃ target, call = .get target := by
  intro call hcall
  unfold Lifecycle.resolveAccess at h
  split at h
  next =>
    obtain ⟨rfl, -⟩ := h
    cases hcall
  next url =>
    obtain ⟨rfl, -⟩ := h
    cases hcall
  next address service fallback =>
    obtain ⟨result, rest, rfl, hrest⟩ := (traces_perform_bind _ _ _ _).mp h
    obtain ⟨rfl, -⟩ := hrest
    exact ⟨service, List.mem_singleton.mp hcall⟩

/-- Applying a plan takes its course, and afterwards objects are only read. Nothing that is read
changes which units the result lists, or its error. -/
theorem traces_applyPlan {plan : Plan} {cancel : Cancellation} {events : List Event}
    {result : ApplyResult} (h : Traces (Lifecycle.applyPlan plan cancel) events result) :
    ∃ applying resolving base, events = applying ++ resolving ∧
      Course cancel plan.units applying base ∧ base.created = result.created ∧
      base.error = result.error ∧ ∀ call ∈ callTrail resolving, ∃ target, call = .get target := by
  obtain ⟨base, applying, resolving, rfl, happly, hrest⟩ := (traces_bind _ _ _ _).mp h
  have course : Course cancel plan.units applying base := course_of_traces happly
  refine ⟨applying, resolving, base, rfl, course, ?_⟩
  split at hrest
  next =>
    obtain ⟨access, first, last, rfl, hresolve, hend⟩ := (traces_bind _ _ _ _).mp hrest
    obtain ⟨rfl, rfl⟩ := hend
    rw [List.append_nil]
    exact ⟨rfl, rfl, resolveAccess_gets hresolve⟩
  next =>
    obtain ⟨rfl, rfl⟩ := hrest
    exact ⟨rfl, rfl, fun call hcall => (by cases hcall)⟩

/-- A workload whose address follows from its plan is reported with it once all units are
created. -/
theorem traces_applyPlan_url {plan : Plan} {cancel : Cancellation} {events : List Event}
    {result : ApplyResult} {url : String} (access : plan.access = some (.url url))
    (h : Traces (Lifecycle.applyPlan plan cancel) events result) :
    ∃ base, Course cancel plan.units events base ∧
      result = if base.isSuccess then ⟨base.created, some url, base.error⟩ else base := by
  obtain ⟨base, applying, resolving, rfl, happly, hrest⟩ := (traces_bind _ _ _ _).mp h
  have course : Course cancel plan.units applying base := course_of_traces happly
  refine ⟨base, ?_⟩
  split at hrest
  next success =>
    rw [access] at hrest
    obtain ⟨rfl, rfl⟩ := hrest
    rw [List.append_nil, if_pos success]
    exact ⟨course, rfl⟩
  next failure =>
    obtain ⟨rfl, rfl⟩ := hrest
    rw [List.append_nil, if_neg failure]
    exact ⟨course, rfl⟩

/-- Such a workload that is reported without an error was created as a whole. -/
theorem applyPlan_success {plan : Plan} {cancel : Cancellation} {events : List Event}
    {result : ApplyResult} {url : String} (access : plan.access = some (.url url))
    (h : Traces (Lifecycle.applyPlan plan cancel) events result)
    (success : result.isSuccess = true) :
    UnitsCreated plan.units events ∧
      result = ⟨plan.units.map PlanUnit.ref, some url, none⟩ := by
  obtain ⟨base, course, rfl⟩ := traces_applyPlan_url access h
  split at success
  next hbase =>
    refine ⟨unitsCreated_of_success course hbase, ?_⟩
    rw [if_pos hbase, result_of_success course hbase]
  next failure => exact absurd success failure

/-! ### Failures in reports -/

/-- The event is a call that did not do what it was to do, with this report. A delete that finds
nothing to delete is no failure. -/
inductive Failure : Event → Report GatewayError → Prop
  | create {ns : String} {kind : Kind} {manifest : Json} {report : Report GatewayError} :
      Failure (.call (.create ns kind manifest) (.error report)) report
  | delete {target : Ref} {report : Report GatewayError}
      (stuck : report.cause.isNotFound = false) :
      Failure (.call (.delete target) (.error report)) report
  | update {target : Ref} {manifest : Json} {report : Report GatewayError} :
      Failure (.call (.update target manifest) (.error report)) report

/-- One report stands in another, with its whole history. -/
def Within (report : Report GatewayError) (whole : Report ProvisionError) : Prop :=
  report.frames <:+: whole.frames

theorem within_above (cause : ProvisionError) (report : Report GatewayError) :
    Within report (.above cause report) :=
  ⟨[.provision cause], [], by simp [Report.above, Report.frames, Reportable.frames]⟩

theorem within_withNote {report : Report GatewayError} {whole : Report ProvisionError}
    (h : Within report whole) (text : String) : Within report (whole.withNote text) := by
  unfold Within
  rw [Report.frames_withNote]
  exact h.trans (List.suffix_cons _ _).isInfix

theorem within_wrapped {report : Report GatewayError} {whole : Report ProvisionError}
    (h : Within report whole) (cause : ProvisionError) :
    Within report (Report.above cause whole : Report ProvisionError) := by
  have hframes : (Report.above cause whole : Report ProvisionError).frames =
      .provision cause :: whole.frames := by
    simp [Report.above, Report.frames, Reportable.frames]
  unfold Within
  rw [hframes]
  exact h.trans (List.suffix_cons _ _).isInfix

theorem within_planFailure {report : Report GatewayError} {whole : Report ProvisionError}
    (h : Within report whole) (made : List PlanUnit) (failed : PlanUnit) :
    Within report (planFailure made failed whole) := by
  unfold planFailure
  split
  · exact h
  · exact within_wrapped h _

theorem within_foldl_combine {report : Report GatewayError}
    {failures : List (Report ProvisionError)} {first : Report ProvisionError}
    (h : Within report first ∨ ∃ failure ∈ failures, Within report failure) :
    Within report (failures.foldl Report.combine first) := by
  induction failures generalizing first with
  | nil =>
    rcases h with h | ⟨failure, hmem, -⟩
    · exact h
    · cases hmem
  | cons next failures ih =>
    have hframes := Report.frames_combine first next
    apply ih
    rcases h with h | ⟨failure, hmem, h⟩
    · left
      unfold Within
      rw [hframes]
      exact h.trans (List.prefix_append _ _).isInfix
    · rcases List.mem_cons.mp hmem with rfl | hmem
      · left
        unfold Within
        rw [hframes]
        exact h.trans (List.suffix_append _ _).isInfix
      · exact .inr ⟨failure, hmem, h⟩

theorem settled_no_failure {target : Ref} {removed : (GatewayCall.delete target).Result}
    (settled : Settles removed) {report : Report GatewayError} :
    ¬Failure (.call (.delete target) removed) report := by
  intro failure
  cases failure with
  | delete stuck => exact Bool.false_ne_true (stuck.symm.trans settled)

theorem unitsCreated_no_failure {us : List PlanUnit} {events : List Event}
    (created : UnitsCreated us events) {event : Event} (hevent : event ∈ events)
    {report : Report GatewayError} : ¬Failure event report := by
  induction created with
  | nil => cases hevent
  | cons settled rest ih =>
    intro failure
    rcases List.mem_cons.mp hevent with rfl | hevent
    · exact settled_no_failure settled failure
    rcases List.mem_cons.mp hevent with rfl | hevent
    · cases failure
    rcases List.mem_cons.mp hevent with rfl | hevent
    · cases failure
    · exact ih hevent failure

theorem unitAbandoned_no_failure {cancel : Cancellation} {finished : Nat} {u : PlanUnit}
    {events : List Event} (abandoned : UnitAbandoned cancel finished u events) {event : Event}
    (hevent : event ∈ events) {report : Report GatewayError} : ¬Failure event report := by
  cases abandoned with
  | unbegun fired => cases hevent
  | atDelete fired => cases hevent
  | atCreate settled fired =>
    obtain rfl := List.mem_singleton.mp hevent
    exact settled_no_failure settled

theorem unitFails_reports {u : PlanUnit} {events : List Event} {whole : Report ProvisionError}
    (fails : UnitFails u events whole) {event : Event} (hevent : event ∈ events)
    {report : Report GatewayError} (failure : Failure event report) : Within report whole := by
  cases fails with
  | atDelete stuck =>
    obtain rfl := List.mem_singleton.mp hevent
    cases failure
    exact within_withNote (within_above _ _) _
  | atCreate settled =>
    rcases List.mem_cons.mp hevent with rfl | hevent
    · exact absurd failure (settled_no_failure settled)
    · obtain rfl := List.mem_singleton.mp hevent
      cases failure
      exact within_above _ _

theorem unitsUndone_reports {us : List PlanUnit} {events : List Event} {left : List Ref}
    {failures : List (Report ProvisionError)} (undone : UnitsUndone us events left failures)
    {event : Event} (hevent : event ∈ events) {report : Report GatewayError}
    (failure : Failure event report) : ∃ whole ∈ failures, Within report whole := by
  induction undone with
  | nil => cases hevent
  | permanent action rest ih => exact ih hevent
  | undone action settled rest ih =>
    rcases List.mem_cons.mp hevent with rfl | hevent
    · exact absurd failure (settled_no_failure settled)
    rcases List.mem_cons.mp hevent with rfl | hevent
    · cases failure
    · exact ih hevent
  | orphaned action stuck rest ih =>
    rcases List.mem_cons.mp hevent with rfl | hevent
    · cases failure
      exact ⟨_, List.mem_cons_self, within_wrapped (within_above _ _) _⟩
    · obtain ⟨whole, hmem, within⟩ := ih hevent
      exact ⟨whole, List.mem_cons_of_mem _ hmem, within⟩

/-- Whatever fails while a plan is applied stands in the error of the result. -/
theorem course_reports {cancel : Cancellation} {us : List PlanUnit} {events : List Event}
    {result : ApplyResult} (course : Course cancel us events result) {event : Event}
    (hevent : event ∈ events) {report : Report GatewayError} (failure : Failure event report) :
    ∃ whole, result.error = some whole ∧ Within report whole := by
  obtain ⟨made, rest, done, tail, rfl, rfl, created, ending⟩ := course
  have htail : event ∈ tail := (List.mem_append.mp hevent).resolve_left fun hdone =>
    unitsCreated_no_failure created hdone failure
  cases ending with
  | completed => cases htail
  | cancelled abandoned => exact absurd failure (unitAbandoned_no_failure abandoned htail)
  | kept fails policy =>
    have within := unitFails_reports fails htail failure
    exact ⟨_, rfl, within_planFailure within _ _⟩
  | rolledBack fails policy undone =>
    refine ⟨_, rfl, within_foldl_combine ?_⟩
    rcases List.mem_append.mp htail with htried | hundo
    · have within := unitFails_reports fails htried failure
      exact .inl (within_planFailure within _ _)
    · exact .inr (unitsUndone_reports undone hundo failure)

end ClusterProvisioning.Proofs
