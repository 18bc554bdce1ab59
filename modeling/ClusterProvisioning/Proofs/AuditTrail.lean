import ClusterProvisioning.Proofs.PlanBuild
import ClusterProvisioning.Proofs.ProvisionCourse
import ClusterProvisioning.Proofs.TeardownCourse
import ClusterProvisioning.Proofs.UpdateCourse

/-!
# What the audit trail tells of objects that go

Objects leave a cluster by deletes only. The audit trail names every object that is rolled back,
torn down or replaced, and every object that is created; it is silent on what is cleared away for a
unit of a plan before that unit is created. So an object goes without a trace exactly when the
create that was to follow fails, or is never made (`history_accounted`).
-/

namespace ClusterProvisioning.Proofs
open Program MemoryCluster

/-- The objects that deletes removed, in order. -/
def deletions (events : List Event) : List Ref :=
  events.filterMap fun
    | .call (.delete target) (.ok _) => some target
    | _ => none

/-- The objects that creates made, in order. -/
def creations (events : List Event) : List Ref :=
  events.filterMap fun
    | .call (.create ..) (.ok made) => some made
    | _ => none

/-- The objects that audit events of an action name, in order. -/
def linesOf (action : AuditAction) (events : List Event) : List Ref :=
  events.filterMap fun
    | .audit event => if event.action = action then some event.target else none
    | .call .. => none

/-- An audit event tells that the object went, or that it was made. -/
def Named (events : List Event) (target : Ref) : Prop :=
  ∃ action ∈ [AuditAction.delete, .rollback, .create], target ∈ linesOf action events

/-- The trail tells every create, and every delete but those that clear away these objects. -/
structure Booked (cleared : List Ref) (events : List Event) : Prop where
  created : linesOf .create events = creations events
  removed : ∀ target ∈ deletions events,
    target ∈ linesOf .delete events ∨ target ∈ linesOf .rollback events ∨ target ∈ cleared

theorem linesOf_append (action : AuditAction) (first second : List Event) :
    linesOf action (first ++ second) = linesOf action first ++ linesOf action second :=
  List.filterMap_append

theorem deletions_append (first second : List Event) :
    deletions (first ++ second) = deletions first ++ deletions second :=
  List.filterMap_append

theorem creations_append (first second : List Event) :
    creations (first ++ second) = creations first ++ creations second :=
  List.filterMap_append

theorem mem_deletions {events : List Event} {target : Ref} :
    target ∈ deletions events ↔ .call (.delete target) (.ok ()) ∈ events := by
  unfold deletions
  rw [List.mem_filterMap]
  constructor
  · rintro ⟨event, hmem, hsome⟩
    split at hsome
    next => exact Option.some.inj hsome ▸ hmem
    next => cases hsome
  · exact fun hmem => ⟨_, hmem, rfl⟩

theorem mem_creations {events : List Event} {target : Ref} :
    target ∈ creations events ↔ CreatedIn events target := by
  unfold creations CreatedIn
  rw [List.mem_filterMap]
  constructor
  · rintro ⟨event, hmem, hsome⟩
    split at hsome
    next ns kind manifest made =>
      cases hsome
      exact ⟨ns, kind, manifest, hmem⟩
    next => cases hsome
  · rintro ⟨ns, kind, manifest, hmem⟩
    exact ⟨_, hmem, rfl⟩

/-! ### The books of each course -/

section
variable {cleared : List Ref}

theorem booked_of_no_deletions {events : List Event}
    (created : linesOf .create events = creations events) (kept : deletions events = []) :
    Booked cleared events where
  created := created
  removed _ hmem := absurd (kept ▸ hmem) List.not_mem_nil

theorem booked_nil : Booked cleared [] :=
  booked_of_no_deletions rfl rfl

theorem Booked.append {first second : List Event} (hfirst : Booked cleared first)
    (hsecond : Booked cleared second) : Booked cleared (first ++ second) where
  created := by
    rw [linesOf_append, creations_append, hfirst.created, hsecond.created]
  removed := by
    intro target hmem
    simp only [linesOf_append, deletions_append, List.mem_append] at hmem ⊢
    rcases hmem with hmem | hmem
    · exact (hfirst.removed target hmem).imp .inl (Or.imp .inl id)
    · exact (hsecond.removed target hmem).imp .inr (Or.imp .inr id)

/-- A delete clears away its target. -/
theorem booked_clear {target : Ref} (h : target ∈ cleared)
    (removed : (GatewayCall.delete target).Result) :
    Booked cleared [.call (.delete target) removed] where
  created := rfl
  removed := by
    intro other hmem
    cases removed with
    | ok _ => exact .inr (.inr (List.mem_singleton.mp hmem ▸ h))
    | error report => cases hmem

theorem booked_deleted (target : Ref) (removed : (GatewayCall.delete target).Result) :
    Booked cleared [.call (.delete target) removed, .audit ⟨.delete, target⟩] where
  created := rfl
  removed := by
    intro other hmem
    cases removed with
    | ok _ => exact .inl hmem
    | error report => cases hmem

theorem booked_rolledBack (target : Ref) (removed : (GatewayCall.delete target).Result) :
    Booked cleared [.call (.delete target) removed, .audit ⟨.rollback, target⟩] where
  created := rfl
  removed := by
    intro other hmem
    cases removed with
    | ok _ => exact .inr (.inl hmem)
    | error report => cases hmem

theorem booked_stuck (target : Ref) (report : Report GatewayError) :
    Booked cleared [.call (.delete target) (.error report)] :=
  booked_of_no_deletions rfl rfl

theorem booked_created (target made : Ref) (manifest : Json) :
    Booked cleared
      [.call (.create target.ns target.kind manifest) (.ok made), .audit ⟨.create, made⟩] :=
  booked_of_no_deletions rfl rfl

theorem booked_uncreated (target : Ref) (manifest : Json) (report : Report GatewayError) :
    Booked cleared [.call (.create target.ns target.kind manifest) (.error report)] :=
  booked_of_no_deletions rfl rfl

theorem booked_read (target : Ref) (found : (GatewayCall.get target).Result) :
    Booked cleared [.call (.get target) found] :=
  booked_of_no_deletions rfl rfl

theorem unitsCreated_booked {us : List PlanUnit} {events : List Event}
    (created : UnitsCreated us events) (h : ∀ u ∈ us, u.ref ∈ cleared) :
    Booked cleared events := by
  induction created with
  | nil => exact booked_nil
  | @cons u us events removed made settled rest ih =>
    obtain ⟨hu, hus⟩ := List.forall_mem_cons.mp h
    have hunit := (booked_clear hu removed).append (booked_created u.ref made u.manifest)
    exact hunit.append (ih hus)

theorem unitFails_booked {u : PlanUnit} {events : List Event} {report : Report ProvisionError}
    (fails : UnitFails u events report) (h : u.ref ∈ cleared) : Booked cleared events := by
  cases fails with
  | atDelete stuck => exact booked_stuck u.ref _
  | atCreate settled => exact (booked_clear h _).append (booked_uncreated u.ref u.manifest _)

theorem unitAbandoned_booked {cancel : Cancellation} {finished : Nat} {u : PlanUnit}
    {events : List Event} (abandoned : UnitAbandoned cancel finished u events)
    (h : u.ref ∈ cleared) : Booked cleared events := by
  cases abandoned with
  | unbegun fired => exact booked_nil
  | atDelete fired => exact booked_nil
  | atCreate settled fired => exact booked_clear h _

theorem unitsUndone_booked {us : List PlanUnit} {events : List Event} {left : List Ref}
    {failures : List (Report ProvisionError)} (undone : UnitsUndone us events left failures) :
    Booked cleared events := by
  induction undone with
  | nil => exact booked_nil
  | permanent action rest ih => exact ih
  | @undone u us events left failures target removed action settled rest ih =>
    exact (booked_rolledBack target removed).append ih
  | @orphaned u us events left failures target report action stuck rest ih =>
    exact (booked_stuck target report).append ih

theorem ending_booked {cancel : Cancellation} {made rest : List PlanUnit} {events : List Event}
    {result : ApplyResult} (ending : Ending cancel made rest events result)
    (h : ∀ u ∈ rest, u.ref ∈ cleared) : Booked cleared events := by
  cases ending with
  | completed => exact booked_nil
  | cancelled abandoned => exact unitAbandoned_booked abandoned (h _ List.mem_cons_self)
  | kept fails policy => exact unitFails_booked fails (h _ List.mem_cons_self)
  | rolledBack fails policy undone =>
    exact (unitFails_booked fails (h _ List.mem_cons_self)).append (unitsUndone_booked undone)

theorem course_booked {cancel : Cancellation} {us : List PlanUnit} {events : List Event}
    {result : ApplyResult} (course : Course cancel us events result)
    (h : ∀ u ∈ us, u.ref ∈ cleared) : Booked cleared events := by
  obtain ⟨made, rest, done, tail, rfl, rfl, created, ending⟩ := course
  have hdone := unitsCreated_booked created fun u hu => h u (List.mem_append_left rest hu)
  have htail := ending_booked ending fun u hu => h u (List.mem_append_right made hu)
  exact hdone.append htail

theorem replaceCourse_booked {target : Ref} {manifest : Json} {events : List Event}
    {outcome : Outcome Ref} (course : ReplaceCourse target manifest events outcome) :
    Booked cleared events := by
  cases course with
  | unpatched inPlace => exact booked_of_no_deletions rfl rfl
  | patched inPlace => exact booked_of_no_deletions rfl rfl
  | stuck recreated stuck => exact booked_stuck target _
  | lost recreated settled =>
    exact (booked_deleted target _).append (booked_uncreated target manifest _)
  | recreated recreated settled =>
    exact (booked_deleted target _).append (booked_created target _ manifest)

theorem editCourse_booked {edit : Edit} {events : List Event}
    {answer : Except UpdateFailure Ref} (course : EditCourse edit events answer) :
    Booked cleared events := by
  cases course with
  | unread => exact booked_read edit.target _
  | unchanged refused => exact booked_read edit.target _
  | submitted changed replaced =>
    exact (booked_read edit.target _).append (replaceCourse_booked replaced)

theorem editsCourse_booked {edits : List Edit} {events : List Event}
    {answer : Except UpdateFailure (List Ref)} (course : EditsCourse edits events answer) :
    Booked cleared events := by
  induction course with
  | nil => exact booked_nil
  | failed course => exact editCourse_booked course
  | cons course others ih => exact (editCourse_booked course).append ih

theorem updateCourse_booked {units : List Ref} {u : SessionUpdate} {events : List Event}
    {answer : Except UpdateFailure (List Ref)} (course : UpdateCourse units u events answer) :
    Booked cleared events := by
  cases course with
  | idle empty => exact booked_nil
  | refused refused => exact booked_nil
  | carried settled course => exact editsCourse_booked course

theorem swept_booked {targets : List Ref} {events : List Event}
    {failures : List (Report ProvisionError)} (swept : Swept targets events failures) :
    Booked cleared events := by
  induction swept with
  | nil => exact booked_nil
  | @gone target targets events failures removed settled rest ih =>
    exact (booked_deleted target removed).append ih
  | @stuck target targets events failures report stuck rest ih =>
    exact (booked_stuck target report).append ih

theorem teardown_booked {targets : List Ref} {events : List Event} {a : Outcome Unit}
    (h : Traces (Apply.teardown targets) events a) : Booked cleared events := by
  obtain ⟨failures, swept, -⟩ := traces_deleteAll h
  exact swept_booked swept

end

/-! ### Events that only read -/

/-- The events only read objects. -/
def OnlyReads (events : List Event) : Prop :=
  ∀ event ∈ events, ∃ target found, event = .call (.get target) found

theorem reads_booked {cleared : List Ref} {events : List Event} (reads : OnlyReads events) :
    Booked cleared events := by
  induction events with
  | nil => exact booked_nil
  | cons event rest ih =>
    obtain ⟨⟨target, found, rfl⟩, hrest⟩ := List.forall_mem_cons.mp reads
    exact (booked_read target found).append (ih hrest)

theorem reads_lines {events : List Event} (reads : OnlyReads events) (action : AuditAction) :
    linesOf action events = [] := by
  refine List.filterMap_eq_nil_iff.mpr fun event hmem => ?_
  obtain ⟨target, found, rfl⟩ := reads event hmem
  rfl

theorem resolveAccess_reads {access : Option Access} {events : List Event} {a : Option String}
    (h : Traces (Lifecycle.resolveAccess access) events a) : OnlyReads events := by
  unfold Lifecycle.resolveAccess at h
  split at h
  next =>
    obtain ⟨rfl, -⟩ := h
    exact fun _ hmem => absurd hmem List.not_mem_nil
  next url =>
    obtain ⟨rfl, -⟩ := h
    exact fun _ hmem => absurd hmem List.not_mem_nil
  next address service fallback =>
    obtain ⟨found, rest, rfl, rfl, -⟩ := (traces_perform_bind _ _ _ _).mp h
    exact fun _ hmem => ⟨service, found, List.mem_singleton.mp hmem⟩

theorem applyPlan_split {plan : Plan} {cancel : Cancellation} {events : List Event}
    {result : ApplyResult} (h : Traces (Lifecycle.applyPlan plan cancel) events result) :
    ∃ applying reading base, events = applying ++ reading ∧
      Course cancel plan.units applying base ∧ OnlyReads reading := by
  obtain ⟨base, applying, reading, rfl, happly, hrest⟩ := (traces_bind _ _ _ _).mp h
  refine ⟨applying, reading, base, rfl, course_of_traces happly, ?_⟩
  split at hrest
  next =>
    obtain ⟨access, first, last, rfl, hresolve, rfl, -⟩ := (traces_bind _ _ _ _).mp hrest
    rw [List.append_nil]
    exact resolveAccess_reads hresolve
  next =>
    obtain ⟨rfl, -⟩ := hrest
    exact fun _ hmem => absurd hmem List.not_mem_nil

/-! ### Lines that tell of an object that went -/

/-- The lines tell of no delete but in a rollback of these objects. -/
structure RollsBackOnly (made : List Ref) (events : List Event) : Prop where
  deletes : linesOf .delete events = []
  rollbacks : linesOf .rollback events ⊆ made

theorem RollsBackOnly.mono {made more : List Ref} {events : List Event}
    (h : RollsBackOnly made events) (subset : made ⊆ more) : RollsBackOnly more events :=
  ⟨h.deletes, List.Subset.trans h.rollbacks subset⟩

theorem RollsBackOnly.append {made : List Ref} {first second : List Event}
    (hfirst : RollsBackOnly made first) (hsecond : RollsBackOnly made second) :
    RollsBackOnly made (first ++ second) where
  deletes := by
    rw [linesOf_append, hfirst.deletes, hsecond.deletes, List.append_nil]
  rollbacks := by
    rw [linesOf_append]
    exact List.append_subset.mpr ⟨hfirst.rollbacks, hsecond.rollbacks⟩

theorem unitsCreated_lines {us : List PlanUnit} {events : List Event}
    (created : UnitsCreated us events) (made : List Ref) : RollsBackOnly made events := by
  induction created with
  | nil => exact ⟨rfl, List.nil_subset made⟩
  | cons settled rest ih => exact ⟨ih.deletes, ih.rollbacks⟩

theorem unitFails_lines {u : PlanUnit} {events : List Event} {report : Report ProvisionError}
    (fails : UnitFails u events report) (made : List Ref) : RollsBackOnly made events := by
  cases fails with
  | atDelete stuck => exact ⟨rfl, List.nil_subset made⟩
  | atCreate settled => exact ⟨rfl, List.nil_subset made⟩

theorem unitAbandoned_lines {cancel : Cancellation} {finished : Nat} {u : PlanUnit}
    {events : List Event} (abandoned : UnitAbandoned cancel finished u events)
    (made : List Ref) : RollsBackOnly made events := by
  cases abandoned with
  | unbegun fired => exact ⟨rfl, List.nil_subset made⟩
  | atDelete fired => exact ⟨rfl, List.nil_subset made⟩
  | atCreate settled fired => exact ⟨rfl, List.nil_subset made⟩

theorem unitsUndone_lines {us : List PlanUnit} {events : List Event} {left : List Ref}
    {failures : List (Report ProvisionError)} (undone : UnitsUndone us events left failures)
    (form : PlanForm us) : RollsBackOnly (us.map PlanUnit.ref) events := by
  induction undone with
  | nil => exact ⟨rfl, List.nil_subset _⟩
  | permanent action rest ih =>
    exact (ih (planForm_tail form)).mono (List.subset_cons_self _ _)
  | undone action settled rest ih =>
    obtain rfl := rollback_target form List.mem_cons_self action
    have others := ih (planForm_tail form)
    exact ⟨others.deletes, List.cons_subset_cons _ others.rollbacks⟩
  | @orphaned u us events left failures target report action stuck rest ih =>
    have others := (ih (planForm_tail form)).mono (List.subset_cons_self u.ref _)
    exact ⟨others.deletes, others.rollbacks⟩

theorem ending_lines {cancel : Cancellation} {made rest : List PlanUnit} {events : List Event}
    {result : ApplyResult} (ending : Ending cancel made rest events result)
    (form : PlanForm made) : RollsBackOnly (made.map PlanUnit.ref) events := by
  cases ending with
  | completed => exact ⟨rfl, List.nil_subset _⟩
  | cancelled abandoned => exact unitAbandoned_lines abandoned _
  | kept fails policy => exact unitFails_lines fails _
  | rolledBack fails policy undone =>
    have hundone := unitsUndone_lines undone (planForm_reverse form)
    rw [List.map_reverse] at hundone
    have hback := hundone.mono (List.reverse_subset.mpr (List.Subset.refl _))
    exact (unitFails_lines fails _).append hback

/-- Applying a plan rolls back only what it made, and tells of no other delete. -/
theorem course_lines {cancel : Cancellation} {us : List PlanUnit} {events : List Event}
    {result : ApplyResult} {c c' : MemoryCluster} (course : Course cancel us events result)
    (form : PlanForm us) (served : Serves gateway c events c') :
    RollsBackOnly (creations events) events := by
  obtain ⟨made, rest, done, tail, rfl, rfl, created, ending⟩ := course
  have hmade := planForm_sublist (List.sublist_append_left made rest) form
  obtain ⟨d, hdone, -⟩ := (serves_append _ _ _ _ _).mp served
  obtain ⟨-, hcreated⟩ := unitsCreated_store created hmade hdone
  refine ((unitsCreated_lines created _).append (ending_lines ending hmade)).mono ?_
  intro target h
  rw [creations_append]
  exact List.mem_append_left _ (mem_creations.mpr ((hcreated target).mpr h))

theorem swept_lines {targets : List Ref} {events : List Event}
    {failures : List (Report ProvisionError)} (swept : Swept targets events failures) :
    linesOf .rollback events = [] ∧ linesOf .delete events ⊆ targets := by
  induction swept with
  | nil => exact ⟨rfl, List.nil_subset _⟩
  | gone settled rest ih =>
    obtain ⟨hrollbacks, hdeletes⟩ := ih
    exact ⟨hrollbacks, List.cons_subset_cons _ hdeletes⟩
  | stuck stuck rest ih =>
    obtain ⟨hrollbacks, hdeletes⟩ := ih
    exact ⟨hrollbacks, List.subset_cons_of_subset _ hdeletes⟩

theorem teardown_lines {targets : List Ref} {events : List Event} {a : Outcome Unit}
    (h : Traces (Apply.teardown targets) events a) :
    linesOf .rollback events = [] ∧ linesOf .delete events ⊆ targets := by
  obtain ⟨failures, swept, -⟩ := traces_deleteAll h
  obtain ⟨hrollbacks, hdeletes⟩ := swept_lines swept
  exact ⟨hrollbacks, fun target hline => List.mem_reverse.mp (hdeletes hline)⟩

/-! ### Histories -/

/-- An operation that changes the cluster. -/
inductive Operation where
  | apply (units : List PlanUnit) (cancel : Cancellation)
  | replace (target : Ref) (manifest : Json)
  | teardown (targets : List Ref)
  | update (units : List Ref) (changes : SessionUpdate)
  | reset (config : Config) (request : WorkloadRequest) (units : List Ref) (fresh : String)

/-- The cluster after an operation, and what the operation did. -/
def Operation.run : Operation → MemoryCluster → MemoryCluster × List Event
  | .apply units cancel, c => ((Apply.units units cancel).run gateway c).2
  | .replace target manifest, c => ((Apply.replace target manifest).run gateway c).2
  | .teardown targets, c => ((Apply.teardown targets).run gateway c).2
  | .update units changes, c => ((changes.run units).run gateway c).2
  | .reset config request units fresh, c =>
    ((Lifecycle.reset config request units fresh).run gateway c).2

/-- The units that an operation creates, in place of what stands under their names. -/
def Operation.plan : Operation → List PlanUnit
  | .apply units _ => units
  | .reset config request units fresh =>
    match Plan.build config request (resetSuffix request units fresh) with
    | .ok plan => plan.units
    | .error _ => []
  | .replace .. | .teardown _ | .update .. => []

/-- The objects that an operation tears down before that. -/
def Operation.torn : Operation → List Ref
  | .reset _ _ units _ => units
  | .apply .. | .replace .. | .teardown _ | .update .. => []

/-- One operation of a history: the cluster before it, what it did, and the cluster after it. -/
structure Step where
  op : Operation
  before : MemoryCluster
  events : List Event
  after : MemoryCluster

/-- The steps of operations that are carried out one after the other. -/
def history : List Operation → MemoryCluster → List Step
  | [], _ => []
  | op :: rest, c =>
    let (d, events) := op.run c
    ⟨op, c, events, d⟩ :: history rest d

/-- The audit trail of a step accounts for the objects that it made and for those that went, but for
those it cleared away for units that were not made then. -/
structure Accounted (s : Step) : Prop where
  vanished : ∀ target, s.before.object? target ≠ none → s.after.object? target = none →
    target ∈ deletions s.events
  created : linesOf .create s.events = creations s.events
  removed : ∀ target ∈ deletions s.events, Named s.events target ∨
    target ∈ s.op.plan.map PlanUnit.ref ∧ target ∉ creations s.events
  unnamed : PlanForm s.op.plan → ∀ target ∈ s.op.plan.map PlanUnit.ref,
    target ∉ creations s.events → target ∉ s.op.torn → ¬Named s.events target

/-- The books of what an operation did tell how far its audit trail goes. -/
theorem accounted_of_booked {op : Operation} {c d : MemoryCluster} {events : List Event}
    (served : Serves gateway c events d) (booked : Booked (op.plan.map PlanUnit.ref) events)
    (told : PlanForm op.plan → ∀ target ∈ linesOf .delete events ++ linesOf .rollback events,
      target ∈ op.plan.map PlanUnit.ref → target ∈ creations events ∨ target ∈ op.torn) :
    Accounted ⟨op, c, events, d⟩ where
  vanished target present absent := mem_deletions.mpr (serves_deletes served present absent)
  created := booked.created
  removed := by
    intro target hmem
    by_cases made : target ∈ creations events
    · exact .inl ⟨.create, by simp, booked.created ▸ made⟩
    rcases booked.removed target hmem with h | h | h
    · exact .inl ⟨.delete, by simp, h⟩
    · exact .inl ⟨.rollback, by simp, h⟩
    · exact .inr ⟨h, made⟩
  unnamed := by
    rintro form target planned unmade kept ⟨action, haction, hline⟩
    have lines : target ∉ linesOf .delete events ++ linesOf .rollback events := fun h =>
      (told form target h planned).elim unmade kept
    rw [List.mem_append, not_or] at lines
    simp only [List.mem_cons, List.not_mem_nil, or_false] at haction
    rcases haction with rfl | rfl | rfl
    · exact lines.1 hline
    · exact lines.2 hline
    · exact unmade (booked.created ▸ hline)

theorem apply_accounted (units : List PlanUnit) (cancel : Cancellation) {c d : MemoryCluster}
    {events : List Event} {result : ApplyResult}
    (h : (Apply.units units cancel).run gateway c = (result, d, events)) :
    Accounted ⟨.apply units cancel, c, events, d⟩ := by
  obtain ⟨traced, served⟩ := (run_eq_iff _ _ _ _ _ _).mp h
  have course := course_of_traces traced
  refine accounted_of_booked served (course_booked course fun u hu => List.mem_map_of_mem hu) ?_
  intro form target hline _
  obtain ⟨hdeletes, hrollbacks⟩ := course_lines course form served
  rw [hdeletes, List.nil_append] at hline
  exact .inl (hrollbacks hline)

theorem reset_accounted (config : Config) (request : WorkloadRequest) (units : List Ref)
    (fresh : String) {c d : MemoryCluster} {events : List Event} {outcome : Outcome ApplyResult}
    (h : (Lifecycle.reset config request units fresh).run gateway c = (outcome, d, events)) :
    Accounted ⟨.reset config request units fresh, c, events, d⟩ := by
  obtain ⟨traced, served⟩ := (run_eq_iff _ _ _ _ _ _).mp h
  cases course_of_reset traced with
  | unbuilt unbuilt =>
    exact accounted_of_booked served booked_nil fun _ _ hline => absurd hline List.not_mem_nil
  | @stuck plan _ report built swept =>
    obtain ⟨hrollbacks, hdeletes⟩ := teardown_lines swept
    refine accounted_of_booked served (teardown_booked swept) fun _ target hline _ => ?_
    rw [hrollbacks, List.append_nil] at hline
    exact .inr (hdeletes hline)
  | @applied plan first second result built swept carried =>
    obtain ⟨hrollbacks, hdeletes⟩ := teardown_lines swept
    obtain ⟨applying, reading, base, rfl, course, reads⟩ := applyPlan_split carried
    obtain ⟨e, -, hsecond⟩ := (serves_append _ _ _ _ _).mp served
    obtain ⟨e', happlying, -⟩ := (serves_append _ _ _ _ _).mp hsecond
    have hplan : (Operation.reset config request units fresh).plan = plan.units := by
      simp only [Operation.plan, built]
    apply accounted_of_booked served
    · rw [hplan]
      have happlied := course_booked course fun u hu => List.mem_map_of_mem hu
      exact (teardown_booked swept).append (happlied.append (reads_booked reads))
    · rw [hplan]
      intro form target hline _
      obtain ⟨hnone, hundone⟩ := course_lines course form happlying
      simp only [linesOf_append, creations_append, hrollbacks, hnone, reads_lines reads,
        List.nil_append, List.append_nil, List.mem_append] at hline ⊢
      rcases hline with hline | hline
      · exact .inr (hdeletes hline)
      · exact .inl (.inr (.inl (hundone hline)))

theorem operation_accounted (op : Operation) (c : MemoryCluster) :
    let (d, events) := op.run c
    Accounted ⟨op, c, events, d⟩ := by
  cases op with
  | apply units cancel => exact apply_accounted units cancel rfl
  | replace target manifest =>
    obtain ⟨traced, served⟩ := (run_eq_iff gateway (Apply.replace target manifest) c _ _ _).mp rfl
    apply accounted_of_booked served (replaceCourse_booked (course_of_replace traced))
    exact fun _ _ _ h => absurd h List.not_mem_nil
  | teardown targets =>
    obtain ⟨traced, served⟩ := (run_eq_iff gateway (Apply.teardown targets) c _ _ _).mp rfl
    apply accounted_of_booked served (teardown_booked traced)
    exact fun _ _ _ h => absurd h List.not_mem_nil
  | update units changes =>
    obtain ⟨traced, served⟩ := (run_eq_iff gateway (changes.run units) c _ _ _).mp rfl
    apply accounted_of_booked served (updateCourse_booked (course_of_update traced))
    exact fun _ _ _ h => absurd h List.not_mem_nil
  | reset config request units fresh => exact reset_accounted config request units fresh rfl

/-- Whatever operations are carried out on a cluster, whatever it holds and whatever fails: each of
them tells every create, and every delete but those that clear away an object for a unit of a plan
that is not made then. -/
theorem history_accounted (ops : List Operation) (c : MemoryCluster) :
    ∀ step ∈ history ops c, Accounted step := by
  induction ops generalizing c with
  | nil => exact fun step h => absurd h List.not_mem_nil
  | cons op rest ih =>
    intro step hstep
    rcases List.mem_cons.mp hstep with rfl | hstep
    · exact operation_accounted op c
    · exact ih _ step hstep

/-- The manifest of a pod. -/
def plainPod : Json :=
  .object [("apiVersion", .string "v1"), ("kind", .string "Pod"),
    ("metadata", .object [("name", .string "one")]), ("spec", .object [])]

/-- A cluster with a pod of an earlier run, on which no such pod can be created. -/
def stalePodCluster : MemoryCluster :=
  (MemoryCluster.empty.insertObject "ns" .pod plainPod).failOn .create "one"

/-- The pod is applied, and torn down after that failed. -/
def stalePodOperations : List Operation :=
  [.apply [.of .pod "ns" "one" plainPod] .never, .teardown [⟨.pod, "ns", "one"⟩]]

theorem history_accounted_stale_pod :
    ∃ first second, history stalePodOperations stalePodCluster = [first, second] ∧
      second ∈ history stalePodOperations stalePodCluster ∧ Accounted first ∧ Accounted second ∧
      linesOf .delete second.events = [⟨.pod, "ns", "one"⟩] := by
  have accounted := history_accounted stalePodOperations stalePodCluster
  obtain ⟨first, second, hsteps, hline⟩ :
      ∃ first second, history stalePodOperations stalePodCluster = [first, second] ∧
        linesOf .delete second.events = [⟨.pod, "ns", "one"⟩] := ⟨_, _, rfl, rfl⟩
  rw [hsteps] at accounted
  refine ⟨first, second, hsteps, ?_, ?_, ?_, hline⟩
  · rw [hsteps]
    exact List.mem_cons_of_mem first List.mem_cons_self
  · exact accounted first List.mem_cons_self
  · exact accounted second (List.mem_cons_of_mem first List.mem_cons_self)

/-- The pod is deleted, and no audit event tells of it. -/
theorem stale_pod_unnamed :
    ∃ step, history [.apply [.of .pod "ns" "one" plainPod] .never] stalePodCluster = [step] ∧
      step.before.object? ⟨.pod, "ns", "one"⟩ = some plainPod ∧
      ⟨.pod, "ns", "one"⟩ ∈ deletions step.events ∧
      step.after.object? ⟨.pod, "ns", "one"⟩ = none ∧ auditTrail step.events = [] ∧
      ¬Named step.events ⟨.pod, "ns", "one"⟩ := by
  refine ⟨_, rfl, rfl, List.mem_singleton.mpr rfl, rfl, rfl, ?_⟩
  rintro ⟨action, -, hline⟩
  cases hline

end ClusterProvisioning.Proofs
