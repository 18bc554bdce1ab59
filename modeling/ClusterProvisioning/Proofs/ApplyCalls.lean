import ClusterProvisioning.Proofs.ApplyCourse

/-!
# The calls of applying a plan

Which calls applying a plan makes when the caller does not cancel: a delete and a create for each
unit in order up to the first that fails, then the compensating deletes if that unit asks for
them. The statements hold for every gateway.
-/

namespace ClusterProvisioning.Proofs
open Program

/-- The caller does not cancel in the course of the two calls of each unit. -/
def NeverFires (cancel : Cancellation) (us : List PlanUnit) : Prop :=
  ∀ finished < 2 * us.length, ∀ call,
    cancel.hasFired finished = false ∧ cancel.abandons finished call = false

/-- The compensating deletes of created units, in reverse order of their creation, if the unit
that failed asks for them. -/
def compensations (made : List PlanUnit) (failed : PlanUnit) : List GatewayCall :=
  if failed.onFailure = .rollBackCreated then
    (made.reverse.filterMap PlanUnit.rollback).map .delete
  else []

/-- The events stop at a unit of the plan: those before it are created in order, its delete or its
create fails, and all that follows are the compensating deletes, whatever they answer. -/
def StopsAt (us : List PlanUnit) (events : List Event) (made : List PlanUnit)
    (failed : PlanUnit) : Prop :=
  ∃ after done tried undo report, us = made ++ failed :: after ∧
    events = done ++ (tried ++ undo) ∧ UnitsCreated made done ∧ UnitFails failed tried report ∧
    callTrail undo = compensations made failed

theorem not_abandoned {cancel : Cancellation} {us made after : List PlanUnit} {u : PlanUnit}
    (silent : NeverFires cancel us) (plan : us = made ++ u :: after) {begun : List Event} :
    ¬UnitAbandoned cancel (2 * made.length) u begun := by
  have hlength : 2 * made.length + 1 < 2 * us.length := by
    rw [plan, List.length_append, List.length_cons]
    omega
  intro h
  cases h with
  | unbegun fired =>
    rw [(silent _ (by omega) (.delete u.ref)).1] at fired
    exact Bool.false_ne_true fired
  | atDelete fired =>
    rw [(silent _ (by omega) _).2] at fired
    exact Bool.false_ne_true fired
  | atCreate settled fired =>
    rw [(silent _ hlength _).2] at fired
    exact Bool.false_ne_true fired

/-- Undoing makes one delete for each unit that has an action, whether or not earlier ones
fail. -/
theorem callTrail_unitsUndone {us : List PlanUnit} {events : List Event} {left : List Ref}
    {failures : List (Report ProvisionError)} (h : UnitsUndone us events left failures) :
    callTrail events = (us.filterMap PlanUnit.rollback).map .delete := by
  induction h with
  | nil => rfl
  | permanent action rest ih => rw [List.filterMap_cons_none action, ih]
  | undone action settled rest ih =>
    rw [List.filterMap_cons_some action, List.map_cons, ← ih]
    rfl
  | orphaned action stuck rest ih =>
    rw [List.filterMap_cons_some action, List.map_cons, ← ih]
    rfl

theorem unitsCreated_not_fails {made after : List PlanUnit} {failed : PlanUnit}
    {done tried undo : List Event} {report : Report ProvisionError}
    (created : UnitsCreated made done) (fails : UnitFails failed tried report) :
    ¬UnitsCreated (made ++ failed :: after) (done ++ (tried ++ undo)) := by
  induction created with
  | nil =>
    intro h
    cases fails with
    | atDelete stuck =>
      cases h with
      | cons settled rest => exact Bool.false_ne_true (stuck.symm.trans settled)
    | atCreate _ => cases h
  | cons settled rest ih =>
    intro h
    simp only [List.cons_append] at h
    cases h with
    | cons _ hrest => exact ih hrest

theorem stopsAt_of_failure {cancel : Cancellation} {us : List PlanUnit} {events : List Event}
    {result : ApplyResult} (silent : NeverFires cancel us) (course : Course cancel us events result)
    (failure : result.isSuccess = false) : ∃ made failed, StopsAt us events made failed := by
  obtain ⟨made, rest, done, tail, rfl, rfl, created, ending⟩ := course
  cases ending with
  | completed => cases failure
  | cancelled abandoned => exact absurd abandoned (not_abandoned silent rfl)
  | @kept u rest tried report fails policy =>
    refine ⟨made, u, rest, done, tail, [], report, rfl, by rw [List.append_nil], created, fails, ?_⟩
    rw [compensations, if_neg (by simp [policy])]
    rfl
  | @rolledBack u rest tried undo report left failures fails policy undone =>
    refine ⟨made, u, rest, done, tried, undo, report, rfl, rfl, created, fails, ?_⟩
    rw [compensations, if_pos policy, callTrail_unitsUndone undone]

/-- On every gateway, a caller that does not cancel sees exactly these calls: each unit in order is
deleted and, if that leaves nothing under its name, created, up to the first unit that fails; then
come the compensating deletes that this unit asks for. The plan succeeds exactly when no unit
fails. -/
theorem apply_calls {σ : Type} (g : Gateway σ) (s : σ) (us : List PlanUnit)
    (cancel : Cancellation) (silent : NeverFires cancel us) :
    let (result, _, events) := (Apply.units us cancel).run g s
    (result.isSuccess = true ↔ UnitsCreated us events) ∧
      (result.isSuccess = false ↔ ∃ made failed, StopsAt us events made failed) := by
  rcases h : (Apply.units us cancel).run g s with ⟨result, s', events⟩
  have course : Course cancel us events result :=
    course_of_traces ((run_eq_iff _ _ _ _ _ _).mp h).1
  have exclusive : UnitsCreated us events → ¬∃ made failed, StopsAt us events made failed := by
    rintro all ⟨made, failed, after, done, tried, undo, report, rfl, rfl, created, fails, -⟩
    exact unitsCreated_not_fails created fails all
  cases outcome : result.isSuccess with
  | true =>
    have all := unitsCreated_of_success course outcome
    exact ⟨⟨fun _ => all, fun _ => outcome⟩,
      ⟨fun failure => absurd (outcome.symm.trans failure) Bool.false_ne_true.symm,
        fun stops => absurd stops (exclusive all)⟩⟩
  | false =>
    have stops := stopsAt_of_failure silent course outcome
    exact ⟨⟨fun success => absurd (outcome.symm.trans success) Bool.false_ne_true,
        fun all => absurd stops (exclusive all)⟩,
      ⟨fun _ => stops, fun _ => outcome⟩⟩

/-- A caller without a token does not cancel, and a failing route stops the plan. -/
theorem apply_calls_three_units :
    NeverFires .never threeUnits ∧
      let (result, _, events) :=
        (Apply.units threeUnits .never).run MemoryCluster.gateway failingCluster
      result.isSuccess = false ∧ ∃ made failed, StopsAt threeUnits events made failed :=
  have silent : NeverFires .never threeUnits := fun _ _ _ => ⟨rfl, rfl⟩
  have calls := apply_calls MemoryCluster.gateway failingCluster threeUnits .never silent
  ⟨silent, by decide, calls.2.mp (by decide)⟩

end ClusterProvisioning.Proofs
