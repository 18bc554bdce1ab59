import ClusterProvisioning.Proofs.ApplyCourse

/-!
# Cancelling the apply of a plan

A run that the caller cancels is set against the run from the same state that nobody cancels. Up to
the point where the caller is heard the two do the same, so a cancelled run is an initial part of
the other; and a caller who cancels when all units are created, or when one has failed, is not heard
at all. The statements hold for every gateway.
-/

namespace ClusterProvisioning.Proofs
open Program

/-- The call ends the creation of units: a create that fails, or a delete that leaves the object in
place. -/
def endsCreation : (c : GatewayCall) → c.Result → Bool
  | .create .., .error _ => true
  | .delete _, .error report => !report.cause.isNotFound
  | _, _ => false

/-- The number of calls up to the first that ends the creation of units, and of all calls if there
is none. What comes after them is the rollback. -/
def callsUntilFailure : List Event → Nat
  | [] => 0
  | .call c result :: rest => if endsCreation c result then 1 else callsUntilFailure rest + 1
  | .audit _ :: rest => callsUntilFailure rest

/-- The caller does not cancel before this many calls have finished. -/
def SilentFor (cancel : Cancellation) (calls : Nat) : Prop :=
  ∀ finished < calls, ∀ c, cancel.hasFired finished = false ∧ cancel.abandons finished c = false

/-- The objects that the creates among some events succeed with. -/
def objectsMade (events : List Event) : List Ref :=
  events.filterMap fun
    | .call (.create ..) (.ok made) => some made
    | _ => none

/-- The calls that create a unit in place of whatever stands under its name. -/
def unitCalls (u : PlanUnit) : List GatewayCall :=
  [.delete u.ref, .create u.ref.ns u.ref.kind u.manifest]

/-- A run is cut short after some units: it did an initial part of what the whole run does, made
these units and no others, and all its calls are those that create units. -/
structure CutShort (us : List PlanUnit) (n : Nat) (result : ApplyResult)
    (events whole : List Event) : Prop where
  within : n ≤ us.length
  created : result.created = (us.take n).map PlanUnit.ref
  initial : events <+: whole
  made : (objectsMade events).length = n
  forward : callTrail events <+: us.flatMap unitCalls

/-! ### Where a run is cut -/

theorem endsCreation_settled {target : Ref} {removed : (GatewayCall.delete target).Result}
    (settled : Settles removed) : endsCreation (.delete target) removed = false := by
  cases removed with
  | ok _ => rfl
  | error report =>
    have hfound : report.cause.isNotFound = true := settled
    simp only [endsCreation, hfound, Bool.not_true]

theorem callsUntilFailure_settled {target : Ref} {removed : (GatewayCall.delete target).Result}
    (settled : Settles removed) (rest : List Event) :
    callsUntilFailure (.call (.delete target) removed :: rest) = callsUntilFailure rest + 1 := by
  rw [callsUntilFailure, endsCreation_settled settled]
  exact if_neg Bool.false_ne_true

theorem callsUntilFailure_le_append (first second : List Event) :
    callsUntilFailure first ≤ callsUntilFailure (first ++ second) := by
  induction first with
  | nil => exact Nat.zero_le (callsUntilFailure second)
  | cons event rest ih =>
    cases event with
    | audit event => exact ih
    | call c result =>
      simp only [List.cons_append, callsUntilFailure]
      split <;> omega

theorem callsUntilFailure_pos (c : GatewayCall) (result : c.Result) (rest : List Event) :
    0 < callsUntilFailure (.call c result :: rest) := by
  unfold callsUntilFailure
  split
  · exact Nat.one_pos
  · exact Nat.succ_pos _

/-- The caller is heard at one of this many calls after the first ones. -/
def HeardWithin (cancel : Cancellation) (finished calls : Nat) : Prop :=
  ∃ k < calls, cancel.hasFired (finished + k) = true ∨
    ∃ c, cancel.abandons (finished + k) c = true

theorem not_silent_of_heard {cancel : Cancellation} {calls : Nat}
    (heard : HeardWithin cancel 0 calls) : ¬SilentFor cancel calls := by
  intro silent
  obtain ⟨k, hk, fired | ⟨c, fired⟩⟩ := heard
  · have hsilent := (silent k hk .listNodes).1
    rw [Nat.zero_add, hsilent] at fired
    cases fired
  · have hsilent := (silent k hk c).2
    rw [Nat.zero_add, hsilent] at fired
    cases fired

theorem heard_mono {cancel : Cancellation} {finished calls more : Nat} (h : calls ≤ more)
    (heard : HeardWithin cancel finished calls) : HeardWithin cancel finished more := by
  obtain ⟨k, hk, fired⟩ := heard
  exact ⟨k, by omega, fired⟩

/-- What is heard later on is heard from the start on. -/
theorem heard_shift {cancel : Cancellation} {finished calls : Nat} (past : Nat)
    (heard : HeardWithin cancel (finished + past) calls) :
    HeardWithin cancel finished (past + calls) := by
  obtain ⟨k, hk, fired⟩ := heard
  refine ⟨past + k, by omega, ?_⟩
  rwa [Nat.add_assoc] at fired

section
variable {σ : Type} (g : Gateway σ)

/-- Creating a unit goes as if nobody cancelled, or stops within what it does then. -/
theorem createUnit_cut (cancel : Cancellation) (finished : Nat) (u : PlanUnit) (s : σ) :
    let cut := (Apply.createUnit cancel finished u).run g s
    let whole := (Apply.createUnit .never finished u).run g s
    cut = whole ∨ cut.1 = none ∧ cut.2.2 <+: whole.2.2 ∧
      HeardWithin cancel finished (callsUntilFailure whole.2.2) := by
  have hnever : ∀ n c, Cancellation.never.abandons n c = false := fun _ _ => rfl
  simp only [Apply.createUnit, hnever, Bool.false_eq_true, if_false]
  rcases hrun : (Apply.deleteIfPresent u.ref).run g s with ⟨outcome, t, first⟩
  obtain ⟨removed, rfl, hremoved⟩ :=
    traces_deleteIfPresent ((run_eq_iff _ _ _ _ _ _).mp hrun).1
  by_cases hdelete : cancel.abandons finished (.delete u.ref) = true
  · right
    rw [if_pos hdelete, run_bind, hrun]
    exact ⟨rfl, List.nil_prefix, 0, callsUntilFailure_pos _ _ _, .inr ⟨_, hdelete⟩⟩
  · rw [if_neg hdelete, run_bind, run_bind, hrun]
    obtain ⟨settled, rfl⟩ | ⟨report, rfl, stuck, rfl⟩ := hremoved
    · dsimp only
      -- Between the two calls of the unit, the delete has been made.
      by_cases hcreate : cancel.abandons (finished + 1)
          (.create u.ref.ns u.ref.kind u.manifest) = true
      · right
        rw [if_pos hcreate]
        rcases hrest : (Apply.createFrom u.ref u.manifest (.create u.ref)).run g t with
          ⟨made, t', second⟩
        have hsecond : 0 < callsUntilFailure second := by
          obtain ⟨_, rfl, -⟩ | ⟨_, rfl, -⟩ :=
            traces_createFrom ((run_eq_iff _ _ _ _ _ _).mp hrest).1
          · exact callsUntilFailure_pos _ _ _
          · exact callsUntilFailure_pos _ _ _
        rw [run_bind, hrest]
        refine ⟨rfl, List.prefix_append _ _, 1, ?_, .inr ⟨_, hcreate⟩⟩
        change 1 < callsUntilFailure (.call (.delete u.ref) removed :: (second ++ []))
        rw [callsUntilFailure_settled settled, List.append_nil]
        omega
      · left
        rw [if_neg hcreate]
    · left
      rfl

theorem createUnit_begins {finished : Nat} {u : PlanUnit} {events : List Event}
    {outcome : Option (Outcome Ref)}
    (h : Traces (Apply.createUnit .never finished u) events outcome) :
    0 < callsUntilFailure events := by
  obtain ⟨-, abandoned⟩ | ⟨report, -, fails⟩ | ⟨removed, target, -, -, rfl⟩ := traces_createUnit h
  · cases abandoned with
    | unbegun fired => cases fired
    | atDelete fired => cases fired
    | atCreate _ fired => cases fired
  · cases fails with
    | atDelete _ => exact callsUntilFailure_pos _ _ _
    | atCreate _ => exact callsUntilFailure_pos _ _ _
  · exact callsUntilFailure_pos _ _ _

/-- Creating units goes as if nobody cancelled, or ends as a cancelled run within what it does up to
the first failure. -/
theorem createAll_cut (cancel : Cancellation) (finished : Nat) (made us : List PlanUnit) (s : σ) :
    let cut := (Apply.createAll cancel finished made us).run g s
    let whole := (Apply.createAll .never finished made us).run g s
    cut = whole ∨ cut.2.2 <+: whole.2.2 ∧
      HeardWithin cancel finished (callsUntilFailure whole.2.2) := by
  -- A unit that is made adds two calls, and all later ones count from there.
  induction us generalizing finished made s with
  | nil => exact .inl rfl
  | cons u us ih =>
    have hnever : Cancellation.never.hasFired finished = false := rfl
    simp only [Apply.createAll, hnever, Bool.false_eq_true, if_false]
    rcases hunit : (Apply.createUnit .never finished u).run g s with ⟨outcome, t, first⟩
    have traced := ((run_eq_iff _ _ _ _ _ _).mp hunit).1
    by_cases fired : cancel.hasFired finished = true
    · right
      rw [if_pos fired, run_bind, hunit]
      refine ⟨List.nil_prefix, 0, ?_, .inl fired⟩
      have hbegins := createUnit_begins traced
      exact Nat.lt_of_lt_of_le hbegins (callsUntilFailure_le_append first _)
    · rw [if_neg fired, run_bind, run_bind, hunit]
      rcases createUnit_cut g cancel finished u s with same | ⟨hnone, initial, heard⟩
      · rw [same, hunit]
        dsimp only
        obtain ⟨rfl, -⟩ | ⟨report, rfl, -⟩ | ⟨removed, target, settled, rfl, rfl⟩ :=
          traces_createUnit traced
        · exact .inl rfl
        · exact .inl rfl
        · dsimp only
          simp only [run_bind, Program.record, run]
          rcases ih (finished + 2) (made ++ [u]) t with same | ⟨initial, heard⟩
          · left
            rw [same]
          · right
            constructor
            · apply (List.prefix_append_right_inj _).mpr
              apply (List.prefix_append_right_inj _).mpr
              exact initial
            · have hshift := heard_shift 2 heard
              apply heard_mono _ hshift
              change _ ≤ callsUntilFailure (.call (.delete u.ref) removed :: _)
              rw [callsUntilFailure_settled settled]
              exact Nat.le_of_eq (Nat.add_comm 2 _)
      · right
        rcases hcut : (Apply.createUnit cancel finished u).run g s with ⟨outcome', t', first'⟩
        rw [hcut] at hnone initial
        rw [hunit] at initial heard
        obtain rfl : outcome' = none := hnone
        refine ⟨?_, heard_mono (callsUntilFailure_le_append first _) heard⟩
        change first' ++ [] <+: first ++ _
        rw [List.append_nil]
        exact initial.trans (List.prefix_append first _)

end

theorem callsUntilFailure_created {made : List PlanUnit} {done : List Event}
    (created : UnitsCreated made done) (tail : List Event) :
    callsUntilFailure (done ++ tail) = 2 * made.length + callsUntilFailure tail := by
  induction created with
  | nil => simp
  | @cons u us events removed made settled rest ih =>
    rw [List.cons_append, callsUntilFailure_settled settled]
    change callsUntilFailure (events ++ tail) + 1 + 1 = _
    rw [ih, List.length_cons]
    omega

/-- What follows the failure of a unit is not counted. -/
theorem callsUntilFailure_fails {u : PlanUnit} {tried : List Event}
    {report : Report ProvisionError} (fails : UnitFails u tried report) (undo : List Event) :
    callsUntilFailure (tried ++ undo) ≤ 2 := by
  cases fails with
  | atDelete stuck => simp [callsUntilFailure, endsCreation, stuck]
  | atCreate settled =>
    rw [List.cons_append, callsUntilFailure_settled settled]
    exact Nat.le_refl 2

theorem callsUntilFailure_le {cancel : Cancellation} {us : List PlanUnit} {events : List Event}
    {result : ApplyResult} (course : Course cancel us events result) :
    callsUntilFailure events ≤ 2 * us.length := by
  obtain ⟨made, rest, done, tail, rfl, rfl, created, ending⟩ := course
  have htail : callsUntilFailure tail ≤ 2 * rest.length := by
    cases ending with
    | completed => exact Nat.le_refl 0
    | cancelled abandoned =>
      rw [List.length_cons]
      cases abandoned with
      | unbegun _ => exact Nat.zero_le _
      | atDelete _ => exact Nat.zero_le _
      | atCreate settled _ =>
        rw [callsUntilFailure_settled settled, callsUntilFailure]
        omega
    | kept fails _ =>
      have h := callsUntilFailure_fails fails []
      rw [List.append_nil] at h
      rw [List.length_cons]
      omega
    | @rolledBack u rest tried undo report left failures fails _ _ =>
      have h := callsUntilFailure_fails fails undo
      rw [List.length_cons]
      omega
  rw [callsUntilFailure_created created, List.length_append]
  omega

/-! ### What a cancelled run did -/

theorem unitsCreated_calls {us : List PlanUnit} {events : List Event}
    (created : UnitsCreated us events) :
    (objectsMade events).length = us.length ∧ callTrail events = us.flatMap unitCalls := by
  induction created with
  | nil => exact ⟨rfl, rfl⟩
  | @cons u us events removed made settled rest ih =>
    obtain ⟨hmade, hcalls⟩ := ih
    constructor
    · change (made :: objectsMade events).length = _
      rw [List.length_cons, hmade, List.length_cons]
    · change .delete u.ref :: .create u.ref.ns u.ref.kind u.manifest :: callTrail events = _
      rw [hcalls]
      rfl

theorem unitAbandoned_calls {cancel : Cancellation} {finished : Nat} {u : PlanUnit}
    {events : List Event} (abandoned : UnitAbandoned cancel finished u events) :
    objectsMade events = [] ∧ callTrail events <+: unitCalls u := by
  cases abandoned with
  | unbegun _ => exact ⟨rfl, List.nil_prefix⟩
  | atDelete _ => exact ⟨rfl, List.nil_prefix⟩
  | atCreate _ _ => exact ⟨rfl, List.prefix_append [GatewayCall.delete u.ref] _⟩

theorem cause_foldl_combine (failures : List (Report ProvisionError))
    (report : Report ProvisionError) :
    (failures.foldl Report.combine report).cause = report.cause := by
  induction failures generalizing report with
  | nil => rfl
  | cons failure rest ih => exact ih (report.combine failure)

/-- A unit that fails is not reported as cancelled. -/
theorem planFailure_not_cancelled {made : List PlanUnit} {u : PlanUnit} {tried : List Event}
    {report : Report ProvisionError} (fails : UnitFails u tried report) (n : Nat) :
    (planFailure made u report).cause ≠ .cancelled n := by
  unfold planFailure
  split
  · cases fails with
    | atDelete _ => exact ProvisionError.noConfusion
    | atCreate _ => exact ProvisionError.noConfusion
  · exact ProvisionError.noConfusion

theorem cutShort_of_cancelled {cancel : Cancellation} {us : List PlanUnit}
    {events whole : List Event} {result : ApplyResult} {n : Nat}
    (course : Course cancel us events result) (initial : events <+: whole)
    (reported : result.error.map Report.cause = some (.cancelled n)) :
    CutShort us n result events whole := by
  obtain ⟨made, rest, done, tail, rfl, rfl, created, ending⟩ := course
  cases ending with
  | completed => cases reported
  | kept fails _ => exact absurd (Option.some.inj reported) (planFailure_not_cancelled fails n)
  | rolledBack fails _ _ =>
    have hcause := Option.some.inj reported
    rw [cause_foldl_combine] at hcause
    exact absurd hcause (planFailure_not_cancelled fails n)
  | @cancelled u rest begun abandoned =>
    obtain rfl : made.length = n := by
      cases reported
      rfl
    obtain ⟨hmade, hdone⟩ := unitsCreated_calls created
    obtain ⟨hnone, htail⟩ := unitAbandoned_calls abandoned
    refine ⟨?_, ?_, initial, ?_, ?_⟩
    · rw [List.length_append]
      omega
    · rw [List.take_left]
      rfl
    · rw [objectsMade, List.filterMap_append, List.length_append]
      change (objectsMade done).length + (objectsMade tail).length = _
      rw [hmade, hnone]
      rfl
    · rw [callTrail_append, hdone, List.flatMap_append, List.flatMap_cons]
      apply (List.prefix_append_right_inj _).mpr
      exact htail.trans (List.prefix_append _ _)

/-- A run that reports to be cancelled after some units did an initial part of what the run from the
same state does that nobody cancels: it made exactly these units, in order, and undid none. A caller
who does not cancel before a unit has failed, or all are created by two calls each, is not heard:
the run is the same and leaves the same state. -/
theorem apply_cancelled {σ : Type} (g : Gateway σ) (s : σ) (us : List PlanUnit)
    (cancel : Cancellation) :
    let (result, s', events) := (Apply.units us cancel).run g s
    let (settled, t, whole) := (Apply.units us .never).run g s
    (∀ n, result.error.map Report.cause = some (.cancelled n) →
        CutShort us n result events whole) ∧
      callsUntilFailure whole ≤ 2 * us.length ∧
      (SilentFor cancel (callsUntilFailure whole) →
        (result, s', events) = (settled, t, whole)) := by
  have hcut := createAll_cut g cancel 0 [] us s
  change let cut := (Apply.units us cancel).run g s
    let whole := (Apply.units us .never).run g s
    cut = whole ∨ cut.2.2 <+: whole.2.2 ∧ HeardWithin cancel 0 (callsUntilFailure whole.2.2) at hcut
  rcases h : (Apply.units us cancel).run g s with ⟨result, s', events⟩
  rcases hwhole : (Apply.units us .never).run g s with ⟨settled, t, whole⟩
  rw [h, hwhole] at hcut
  dsimp only at hcut ⊢
  have course : Course cancel us events result :=
    course_of_traces ((run_eq_iff _ _ _ _ _ _).mp h).1
  have calls : callsUntilFailure whole ≤ 2 * us.length :=
    callsUntilFailure_le (course_of_traces ((run_eq_iff _ _ _ _ _ _).mp hwhole).1)
  rcases hcut with same | ⟨initial, heard⟩
  · refine ⟨fun n reported => ?_, calls, fun _ => same⟩
    cases same
    exact cutShort_of_cancelled course List.prefix_rfl reported
  · refine ⟨fun n reported => cutShort_of_cancelled course initial reported, calls, ?_⟩
    intro silent
    exact absurd silent (not_silent_of_heard heard)

/-- A caller who cancels while the second unit is created is left with the first, and one who
cancels while the first is undone changes nothing. -/
theorem apply_cancelled_three_units :
    (let (result, _, events) :=
        (Apply.units threeUnits (.during 4)).run MemoryCluster.gateway .empty
      let (_, _, whole) := (Apply.units threeUnits .never).run MemoryCluster.gateway .empty
      result.error.map Report.cause = some (.cancelled 1) ∧
        CutShort threeUnits 1 result events whole) ∧
      let (result, c, events) :=
        (Apply.units threeUnits (.during 7)).run MemoryCluster.gateway failingCluster
      let (settled, d, whole) :=
        (Apply.units threeUnits .never).run MemoryCluster.gateway failingCluster
      SilentFor (.during 7) (callsUntilFailure whole) ∧ settled.isSuccess = false ∧
        (result, c, events) = (settled, d, whole) := by
  have heard := apply_cancelled MemoryCluster.gateway .empty threeUnits (.during 4)
  have unheard := apply_cancelled MemoryCluster.gateway failingCluster threeUnits (.during 7)
  have silent : SilentFor (.during 7) 6 := by
    intro finished h c
    refine ⟨rfl, ?_⟩
    change (7 == finished + 1) = false
    exact beq_eq_false_iff_ne.mpr (by omega)
  refine ⟨⟨by decide, heard.1 1 (by decide)⟩, silent, by decide, unheard.2.2 silent⟩

end ClusterProvisioning.Proofs
