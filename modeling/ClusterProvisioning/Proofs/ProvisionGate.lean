import ClusterProvisioning.Proofs.PlanBuild
import ClusterProvisioning.Proofs.ProvisionCourse

/-!
# The gate of provisioning

Nothing on a cluster changes before the request was built and a check of exactly its resources has
found room. What is refused, denied or not to be checked leaves the cluster as it is, and after
admission every failure stands in the result, together with the units that are left.
-/

namespace ClusterProvisioning.Proofs
open Program MemoryCluster

variable {σ : Type} {config : Config} {request : WorkloadRequest} {suffix : String}
  {cancel : Cancellation}

/-- The call can change an object. -/
def Changes : GatewayCall → Prop
  | .create .. | .delete _ | .update .. => True
  | .get _ | .listNodes | .listPods _ => False

/-- The request is built, and a check of exactly the resources that it asks for finds room, with
these events. -/
def Admitted (config : Config) (request : WorkloadRequest) (suffix : String) (g : Gateway σ)
    (s : σ) (plan : Plan) (checks : List Event) : Prop :=
  Plan.build config request suffix = .ok plan ∧
    ∃ footprint after, Plan.footprint config request = .ok footprint ∧
      (Admission.check footprint).run g s = (.ok true, after, checks)

/-- What follows the admission of a plan, and what the result says of it. -/
structure Carried (cancel : Cancellation) (plan : Plan) (events : List Event)
    (result : ApplyResult) : Prop where
  /-- The result lists the units and has the error that applying the plan leads to; afterwards
  objects are only read. -/
  course : ∃ applying resolving base, events = applying ++ resolving ∧
    Course cancel plan.units applying base ∧ base.created = result.created ∧
    base.error = result.error ∧ ∀ call ∈ callTrail resolving, ∃ target, call = .get target
  /-- Every failure stands in the error. -/
  reports : ∀ event ∈ events, ∀ report, Failure event report →
    ∃ whole, result.error = some whole ∧ Within report whole
  /-- Without an error all units were created. -/
  complete : result.isSuccess = true → ∃ done, done <+: events ∧ UnitsCreated plan.units done

/-- What every run of provisioning keeps to. -/
structure Gated (config : Config) (request : WorkloadRequest) (suffix : String)
    (cancel : Cancellation) (g : Gateway σ) (s : σ) (outcome : Outcome Provisioned)
    (events : List Event) : Prop where
  /-- A call that can change an object comes after the whole check that admitted the plan. -/
  gate : ∀ before call answer after, events = before ++ .call call answer :: after →
    Changes call → ∃ plan checks, Admitted config request suffix g s plan checks ∧ checks <+: before
  /-- A request that is refused asks nothing of the cluster. -/
  refused : ∀ report refusal, outcome = .error report → report.cause = .validation refusal →
    events = []
  /-- Without a result nodes and pods are listed at most. -/
  unapplied : (∀ result, outcome ≠ .ok (.applied result)) → ∀ call ∈ callTrail events, Lists call
  /-- After admission there is a result. -/
  applied : ∀ plan checks, Admitted config request suffix g s plan checks →
    ∃ result tail, outcome = .ok (.applied result) ∧ events = checks ++ tail ∧
      Carried cancel plan tail result

theorem not_changes_of_lists {call : GatewayCall} (listing : Lists call) : ¬Changes call := by
  cases call with
  | listNodes => exact not_false
  | listPods node => exact not_false
  | create ns kind manifest => exact listing.elim
  | get target => exact listing.elim
  | delete target => exact listing.elim
  | update target manifest => exact listing.elim

/-! ### After admission -/

theorem carried_of_applyPlan {plan : Plan} {events : List Event} {result : ApplyResult}
    (h : Traces (Lifecycle.applyPlan plan cancel) events result) :
    Carried cancel plan events result := by
  obtain ⟨applying, resolving, base, rfl, course, hcreated, herror, gets⟩ := traces_applyPlan h
  refine ⟨⟨applying, resolving, base, rfl, course, hcreated, herror, gets⟩, ?_, ?_⟩
  · intro event hevent report failure
    rw [← herror]
    rcases List.mem_append.mp hevent with hevent | hevent
    · exact course_reports course hevent failure
    · cases failure with
      | create =>
        obtain ⟨target, hget⟩ := gets _ (mem_callTrail.mpr ⟨_, hevent⟩)
        cases hget
      | delete stuck =>
        obtain ⟨target, hget⟩ := gets _ (mem_callTrail.mpr ⟨_, hevent⟩)
        cases hget
      | update =>
        obtain ⟨target, hget⟩ := gets _ (mem_callTrail.mpr ⟨_, hevent⟩)
        cases hget
  · intro success
    have hbase : base.isSuccess = true := by
      rw [ApplyResult.isSuccess, herror]
      exact success
    exact ⟨applying, List.prefix_append _ _, unitsCreated_of_success course hbase⟩

/-! ### Runs of provisioning -/

theorem provisionCourse_lists {events : List Event} {outcome : Outcome Provisioned}
    (course : ProvisionCourse config request suffix cancel events outcome)
    (unapplied : ∀ result, outcome ≠ .ok (.applied result)) :
    ∀ call ∈ callTrail events, Lists call := by
  cases course with
  | refused unbuilt => exact fun call hcall => (by cases hcall)
  | unsized unsized => exact fun call hcall => (by cases hcall)
  | unchecked sized checked => exact check_lists checked
  | denied sized checked => exact check_lists checked
  | applied built sized checked carried => exact absurd rfl (unapplied _)

theorem provisionCourse_refused {events : List Event} {report : Report ProvisionError}
    {refusal : Refusal}
    (course : ProvisionCourse config request suffix cancel events (.error report))
    (cause : report.cause = .validation refusal) : events = [] := by
  cases course with
  | refused unbuilt => rfl
  | unsized unsized => rfl
  | unchecked sized checked =>
    obtain ⟨step, hstep⟩ := check_error checked
    cases hstep.symm.trans cause

/-- A call that can change an object belongs to a run that was admitted, and comes after its
check. -/
theorem provisionCourse_gate {g : Gateway σ} {s s' : σ} {events before after : List Event}
    {outcome : Outcome Provisioned} {call : GatewayCall} {answer : call.Result}
    (course : ProvisionCourse config request suffix cancel events outcome)
    (served : Serves g s events s') (hevents : events = before ++ .call call answer :: after)
    (changes : Changes call) :
    ∃ plan checks, Admitted config request suffix g s plan checks ∧ checks <+: before := by
  have hcall : call ∈ callTrail events := by
    rw [hevents]
    exact mem_callTrail.mpr ⟨answer, List.mem_append_right _ List.mem_cons_self⟩
  cases course with
  | refused unbuilt => cases hcall
  | unsized unsized => cases hcall
  | unchecked sized checked =>
    exact absurd changes (not_changes_of_lists (check_lists checked call hcall))
  | denied sized checked =>
    exact absurd changes (not_changes_of_lists (check_lists checked call hcall))
  | @applied plan footprint checks tail result built sized checked carried =>
    obtain ⟨middle, hchecks, htail⟩ := (serves_append _ _ _ _ _).mp served
    have hrun := (run_eq_iff _ _ _ _ _ _).mpr ⟨checked, hchecks⟩
    refine ⟨plan, checks, ⟨built, footprint, middle, sized, hrun⟩, ?_⟩
    -- A check only lists, so the call does not stand among its events.
    rcases List.append_eq_append_iff.mp hevents with ⟨skipped, rfl, -⟩ | ⟨rest, rfl, hrest⟩
    · exact List.prefix_append _ _
    · cases rest with
      | nil => simp only [List.append_nil, List.prefix_rfl]
      | cons event rest =>
        obtain ⟨rfl, -⟩ := List.cons.inj hrest
        have hcheck : call ∈ callTrail (before ++ .call call answer :: rest) :=
          mem_callTrail.mpr ⟨answer, List.mem_append_right _ List.mem_cons_self⟩
        exact absurd changes (not_changes_of_lists (check_lists checked call hcheck))

/-- After admission the run goes on with the plan that was admitted, to a result. -/
theorem provisionCourse_applied {g : Gateway σ} {s s' : σ} {events checks : List Event}
    {outcome : Outcome Provisioned} {plan : Plan}
    (course : ProvisionCourse config request suffix cancel events outcome)
    (served : Serves g s events s')
    (admitted : Admitted config request suffix g s plan checks) :
    ∃ result tail, outcome = .ok (.applied result) ∧ events = checks ++ tail ∧
      Carried cancel plan tail result := by
  obtain ⟨hbuilt, footprint, after, hsized, hrun⟩ := admitted
  cases course with
  | refused unbuilt => cases hbuilt.symm.trans unbuilt
  | unsized unsized => cases hsized.symm.trans unsized
  | unchecked sized checked =>
    cases hsized.symm.trans sized
    cases hrun.symm.trans ((run_eq_iff _ _ _ _ _ _).mpr ⟨checked, served⟩)
  | denied sized checked =>
    cases hsized.symm.trans sized
    cases hrun.symm.trans ((run_eq_iff _ _ _ _ _ _).mpr ⟨checked, served⟩)
  | applied built sized checked carried =>
    obtain ⟨middle, hchecks, htail⟩ := (serves_append _ _ _ _ _).mp served
    cases hbuilt.symm.trans built
    cases hsized.symm.trans sized
    cases hrun.symm.trans ((run_eq_iff _ _ _ _ _ _).mpr ⟨checked, hchecks⟩)
    exact ⟨_, _, rfl, rfl, carried_of_applyPlan carried⟩

theorem gated_of_run {g : Gateway σ} {s s' : σ} {events : List Event}
    {outcome : Outcome Provisioned}
    (h : (Lifecycle.provision config request suffix cancel).run g s = (outcome, s', events)) :
    Gated config request suffix cancel g s outcome events := by
  obtain ⟨traced, served⟩ := (run_eq_iff _ _ _ _ _ _).mp h
  have course := course_of_provision traced
  exact {
    gate := fun before call answer after hevents changes =>
      provisionCourse_gate course served hevents changes
    refused := by
      rintro report refusal rfl cause
      exact provisionCourse_refused course cause
    unapplied := provisionCourse_lists course
    applied := fun plan checks admitted => provisionCourse_applied course served admitted }

/-! ### Objects of a cluster in memory -/

theorem check_creates_nothing {footprint : Resources} {checks : List Event} {a : Outcome Bool}
    (checked : Traces (Admission.check footprint) checks a) (target : Ref) :
    ¬CreatedIn checks target := by
  rintro ⟨ns, kind, manifest, hmem⟩
  exact check_lists checked _ (mem_callTrail.mpr ⟨_, hmem⟩)

theorem gets_create_nothing {events : List Event}
    (gets : ∀ call ∈ callTrail events, ∃ target, call = .get target) (target : Ref) :
    ¬CreatedIn events target := by
  rintro ⟨ns, kind, manifest, hmem⟩
  obtain ⟨_, hget⟩ := gets _ (mem_callTrail.mpr ⟨_, hmem⟩)
  cases hget

theorem gets_frame {c c' : MemoryCluster} {events : List Event}
    (served : Serves gateway c events c')
    (gets : ∀ call ∈ callTrail events, ∃ target, call = .get target) (other : Ref) :
    c'.object? other = c.object? other := by
  refine serves_frame served fun call hcall => ?_
  obtain ⟨target, rfl⟩ := gets call hcall
  exact Option.some_ne_none other |>.symm

/-- The result lists the units that the run created and that are there at the end. -/
theorem mem_applied_iff {c c' : MemoryCluster} {events : List Event} {result : ApplyResult}
    (course : ProvisionCourse config request suffix cancel events (.ok (.applied result)))
    (served : Serves gateway c events c') (target : Ref) :
    target ∈ result.created ↔ CreatedIn events target ∧ (c'.object? target).isSome := by
  cases course with
  | applied built sized checked carried =>
    obtain ⟨middle, hchecks, htail⟩ := (serves_append _ _ _ _ _).mp served
    obtain ⟨applying, resolving, base, rfl, applied, hcreated, -, gets⟩ :=
      traces_applyPlan carried
    obtain ⟨d, happlying, hresolving⟩ := (serves_append _ _ _ _ _).mp htail
    rw [createdIn_append, createdIn_append, or_iff_right (check_creates_nothing checked target),
      or_iff_left (gets_create_nothing gets target), gets_frame hresolving gets, ← hcreated]
    exact mem_created_iff applied (planForm_of_build built) happlying target

/-- On every gateway, whatever it answers and whenever the caller cancels, provisioning keeps to
its gate. On a cluster in memory this means that a run without a result leaves all objects as they
were, and that a result lists exactly the units that the run created and that are still there. -/
theorem provision_gated (config : Config) (request : WorkloadRequest) (suffix : String)
    (cancel : Cancellation) :
    (∀ (σ : Type) (g : Gateway σ) (s : σ),
      let (outcome, _, events) := (Lifecycle.provision config request suffix cancel).run g s
      Gated config request suffix cancel g s outcome events) ∧
    ∀ c : MemoryCluster,
      let (outcome, c', events) :=
        (Lifecycle.provision config request suffix cancel).run gateway c
      ((∀ result, outcome ≠ .ok (.applied result)) → c'.objects = c.objects) ∧
        ∀ result, outcome = .ok (.applied result) → ∀ target,
          target ∈ result.created ↔ CreatedIn events target ∧ (c'.object? target).isSome := by
  refine ⟨fun σ g s => gated_of_run rfl, fun c => ?_⟩
  rcases h : (Lifecycle.provision config request suffix cancel).run gateway c with
    ⟨outcome, c', events⟩
  obtain ⟨traced, served⟩ := (run_eq_iff _ _ _ _ _ _).mp h
  have course := course_of_provision traced
  constructor
  · intro unapplied
    obtain ⟨calls, rfl⟩ := serves_lists served (provisionCourse_lists course unapplied)
    rfl
  · rintro result rfl target
    exact mem_applied_iff course served target

end ClusterProvisioning.Proofs
