import ClusterProvisioning.Proofs.ProvisionCourse
import ClusterProvisioning.Proofs.SessionShape
import ClusterProvisioning.Proofs.TeardownReport

/-!
# The order of a reset

A reset first builds its plan, then tears the recorded units down, and only then applies the plan
(`reset_ordered`). Nothing is asked of the cluster for a request that has no plan, and nothing is
created while a recorded unit may still stand. The plan of a session is the one that its recorded
units were created from: the suffix is read off the name of the pod, whatever hyphens the owner has
in it.
-/

namespace ClusterProvisioning.Proofs
open Program Plan

variable {σ : Type} {config : Config} {request : WorkloadRequest} {units : List Ref}
  {fresh suffix : String} {events : List Event} {outcome : Outcome ApplyResult}

/-- Tears units down and applies a plan in their place. -/
def recreate (plan : Plan) (units : List Ref) : Program (Outcome ApplyResult) := do
  match ← Apply.teardown units with
  | .error report => return .error (report.withNote "failed to remove the workload before reset")
  | .ok () => return .ok (← Lifecycle.applyPlan plan .never)

/-- What a reset does and answers, and in which order. -/
structure ResetOrdered (config : Config) (request : WorkloadRequest) (units : List Ref)
    (fresh : String) (s s' : σ) (outcome : Outcome ApplyResult) (events : List Event) : Prop where
  /-- Whether there is a plan does not depend on the suffix, and without one nothing happens. -/
  unbuilt : ∀ suffix report, Plan.build config request suffix = .error report →
    outcome = .error report ∧ events = [] ∧ s' = s
  /-- Before the first create every unit was deleted, and none of the deletes failed. -/
  removed : ∀ before after ns kind manifest
    (made : (GatewayCall.create ns kind manifest).Result),
    events = before ++ .call (.create ns kind manifest) made :: after →
      ∃ deleting rest, before = deleting ++ rest ∧ Swept units.reverse deleting []
  failed : ∀ report, outcome = .error report →
    ∀ ns kind manifest, .create ns kind manifest ∉ callTrail events
  /-- The plan of a session is the one that its units are of. -/
  session : ∀ suffix plan, request.kind = .session → '-' ∉ suffix.toList →
    Plan.build config request suffix = .ok plan → plan.units.map PlanUnit.ref = units →
      Lifecycle.reset config request units fresh = recreate plan units ∧
        ∃ url, plan.access = some (.url url) ∧
          ∀ result, outcome = .ok result → result.isSuccess = true →
            result = ⟨units, some url, none⟩ ∧
              ∃ deleting making, events = deleting ++ making ∧ UnitsCreated plan.units making

/-! ### Plans and suffixes -/

/-- A request that has no plan has none under any suffix. -/
theorem build_error {report : Report ProvisionError}
    (h : Plan.build config request suffix = .error report) (other : String) :
    Plan.build config request other = .error report := by
  unfold Plan.build at h ⊢
  cases hkind : request.kind with
  | session =>
    rw [hkind] at h
    dsimp only at h ⊢
    cases hbuild : Session.build config.session request suffix with
    | ok plan =>
      rw [hbuild] at h
      cases h
    | error first =>
      rw [session_build_error.mpr (session_build_error.mp hbuild), ← hbuild]
      exact h
  | servingDeployment | trainingJob =>
    rw [hkind] at h
    exact h

/-- A session that was built with a suffix is reset under that suffix. -/
theorem reset_session {plan : Plan} (kind : request.kind = .session)
    (plain : '-' ∉ suffix.toList) (built : Plan.build config request suffix = .ok plan)
    (recorded : plan.units.map PlanUnit.ref = units) (fresh : String) :
    Lifecycle.reset config request units fresh = recreate plan units ∧
      ∃ url, plan.access = some (.url url) := by
  obtain ⟨s, url, session, access, hsuffix⟩ := sessionOf_build kind plain built
  have hunits : s.units = units := session.refs.symm.trans recorded
  have again : Plan.build config request (resetSuffix request units fresh) = .ok plan := by
    rw [← hunits, hsuffix fresh, built]
  refine ⟨?_, url, access⟩
  unfold Lifecycle.reset
  rw [show (Lifecycle.recordedSuffix? request.kind units).getD fresh =
    resetSuffix request units fresh from rfl, again]
  rfl

/-! ### Creates and deletes -/

theorem swept_of_teardown (traced : Traces (Apply.teardown units) events (.ok ())) :
    Swept units.reverse events [] := by
  obtain ⟨failures, swept, hanswer⟩ := traces_deleteAll traced
  rcases sweepAnswer_cases failures with ⟨rfl, -⟩ | ⟨report, -, herror, -⟩
  · exact swept
  · cases hanswer.trans herror

theorem teardown_creates_nothing {answer : Outcome Unit}
    (traced : Traces (Apply.teardown units) events answer) (ns : String) (kind : Kind)
    (manifest : Json) : .create ns kind manifest ∉ callTrail events := by
  obtain ⟨failures, swept, -⟩ := traces_deleteAll traced
  intro hcall
  obtain ⟨target, -, h⟩ := swept_frame swept _ hcall
  cases h

/-- An event that is not in a first part of the events comes after all of it. -/
theorem after_first {first second before after : List Event} {event : Event}
    (split : first ++ second = before ++ event :: after) (other : event ∉ first) :
    ∃ rest, before = first ++ rest := by
  rcases List.append_eq_append_iff.mp split with ⟨rest, hbefore, -⟩ | ⟨rest, hfirst, htail⟩
  · exact ⟨rest, hbefore⟩
  · cases rest with
    | nil =>
      rw [List.append_nil] at hfirst
      exact ⟨[], by rw [hfirst, List.append_nil]⟩
    | cons found rest =>
      cases htail
      exact absurd (hfirst ▸ List.mem_append_right before List.mem_cons_self) other

/-! ### Resets -/

theorem reset_removed (course : ResetCourse config request units fresh events outcome)
    {before after : List Event} {ns : String} {kind : Kind} {manifest : Json}
    {made : (GatewayCall.create ns kind manifest).Result}
    (split : events = before ++ .call (.create ns kind manifest) made :: after) :
    ∃ deleting rest, before = deleting ++ rest ∧ Swept units.reverse deleting [] := by
  have hmem : .create ns kind manifest ∈ callTrail events :=
    mem_callTrail.mpr ⟨made, split ▸ List.mem_append_right before List.mem_cons_self⟩
  cases course with
  | unbuilt unbuilt => cases hmem
  | stuck built swept => exact absurd hmem (teardown_creates_nothing swept _ _ _)
  | @applied plan first second result built swept carried =>
    have other : .call (.create ns kind manifest) made ∉ first := fun h =>
      teardown_creates_nothing swept ns kind manifest (mem_callTrail.mpr ⟨made, h⟩)
    obtain ⟨rest, hbefore⟩ := after_first split other
    exact ⟨first, rest, hbefore, swept_of_teardown swept⟩

theorem reset_failed {report : Report ProvisionError}
    (course : ResetCourse config request units fresh events (.error report)) (ns : String)
    (kind : Kind) (manifest : Json) : .create ns kind manifest ∉ callTrail events := by
  generalize hanswer : (Except.error report : Outcome ApplyResult) = answer at course
  cases course with
  | unbuilt unbuilt => exact List.not_mem_nil
  | stuck built swept => exact teardown_creates_nothing swept ns kind manifest
  | applied => cases hanswer

theorem recreate_success {plan : Plan} {result : ApplyResult} {url : String}
    (access : plan.access = some (.url url)) (recorded : plan.units.map PlanUnit.ref = units)
    (traced : Traces (recreate plan units) events (.ok result))
    (success : result.isSuccess = true) :
    result = ⟨units, some url, none⟩ ∧
      ∃ deleting making, events = deleting ++ making ∧ UnitsCreated plan.units making := by
  obtain ⟨answer, first, second, rfl, -, hrest⟩ := (traces_bind _ _ _ _).mp traced
  cases answer with
  | error report =>
    obtain ⟨-, hanswer⟩ := hrest
    cases hanswer
  | ok _ =>
    obtain ⟨applied, third, fourth, rfl, carried, rfl, hanswer⟩ := (traces_bind _ _ _ _).mp hrest
    cases hanswer
    obtain ⟨created, hresult⟩ := applyPlan_success access carried success
    rw [recorded] at hresult
    exact ⟨hresult, first, third, by rw [List.append_nil], created⟩

/-- On every gateway a reset builds, removes and creates in this order, and gives a session back as
it was built. -/
theorem reset_ordered (g : Gateway σ) (s s' : σ) (config : Config) (request : WorkloadRequest)
    (units : List Ref) (fresh : String) (outcome : Outcome ApplyResult) (events : List Event)
    (run : (Lifecycle.reset config request units fresh).run g s = (outcome, s', events)) :
    ResetOrdered config request units fresh s s' outcome events := by
  obtain ⟨traced, served⟩ := (run_eq_iff _ _ _ _ _ _).mp run
  have course := course_of_reset traced
  refine ⟨fun suffix report unbuilt => ?_, fun _ _ _ _ _ _ split => reset_removed course split,
    ?_, fun suffix plan kind plain built recorded => ?_⟩
  · have hnone := build_error unbuilt (resetSuffix request units fresh)
    cases course with
    | unbuilt unbuilt' =>
      cases unbuilt'.symm.trans hnone
      exact ⟨rfl, rfl, served⟩
    | stuck built => cases built.symm.trans hnone
    | applied built => cases built.symm.trans hnone
  · rintro report rfl
    exact reset_failed course
  · obtain ⟨same, url, access⟩ := reset_session kind plain built recorded fresh
    refine ⟨same, url, access, ?_⟩
    rintro result rfl success
    exact recreate_success access recorded (same ▸ traced) success

theorem reset_ordered_claiming :
    ∃ plan outcome c' events, Plan.build .standard claimingRequest "1a2b3" = .ok plan ∧
      let units := plan.units.map PlanUnit.ref
      (Lifecycle.reset .standard claimingRequest units "fresh").run MemoryCluster.gateway
          MemoryCluster.empty = (outcome, c', events) ∧
        ResetOrdered .standard claimingRequest units "fresh" MemoryCluster.empty c' outcome
          events := by
  obtain ⟨plan, built⟩ := claimingRequest_builds
  rcases h : (Lifecycle.reset .standard claimingRequest (plan.units.map PlanUnit.ref) "fresh").run
    MemoryCluster.gateway MemoryCluster.empty with ⟨outcome, c', events⟩
  exact ⟨plan, outcome, c', events, built, h, reset_ordered _ _ _ _ _ _ _ _ _ h⟩

end ClusterProvisioning.Proofs
