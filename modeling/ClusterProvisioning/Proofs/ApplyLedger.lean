import ClusterProvisioning.Proofs.ApplyCourse
import ClusterProvisioning.Proofs.ClusterStore
import Mathlib.Data.List.Nodup

/-!
# The ledger of applying a plan

The result of applying a plan to a cluster in memory lists exactly the units that the run created
and that are still there, in the order of the plan, however the run ends. Objects of units that
were not begun, and all other objects, stay as they were.
-/

namespace ClusterProvisioning.Proofs
open Program MemoryCluster

/-- A create among the events succeeded with this object. -/
def CreatedIn (events : List Event) (target : Ref) : Prop :=
  ∃ ns kind manifest, Event.call (.create ns kind manifest) (.ok target) ∈ events

/-- The events begin the unit: they delete what stands under its name. -/
def Attempted (events : List Event) (u : PlanUnit) : Prop :=
  .delete u.ref ∈ callTrail events

/-- What callers promise of the units of one plan: no two have the same identity, each manifest
names its own unit, and a unit is undone by deleting its own object if at all. -/
structure PlanForm (us : List PlanUnit) : Prop where
  distinct : (us.map PlanUnit.ref).Nodup
  named : ∀ u ∈ us, Manifest.name? u.manifest = some u.name
  undo : ∀ u ∈ us, u.rollback = none ∨ u.rollback = some u.ref

/-- Every call among the events is about one of these units, and the events begin that unit. -/
def Confined (us : List PlanUnit) (events : List Event) : Prop :=
  ∀ call ∈ callTrail events, ∃ u ∈ us, touched call = some u.ref ∧ Attempted events u

theorem planForm_sublist {us vs : List PlanUnit} (h : us.Sublist vs) (form : PlanForm vs) :
    PlanForm us where
  distinct := (h.map PlanUnit.ref).nodup form.distinct
  named u hu := form.named u (h.subset hu)
  undo u hu := form.undo u (h.subset hu)

theorem refs_apart {made rest : List PlanUnit}
    (distinct : ((made ++ rest).map PlanUnit.ref).Nodup) :
    ∀ u ∈ made, ∀ v ∈ rest, u.ref ≠ v.ref := by
  rw [List.map_append, List.nodup_append] at distinct
  intro u hu v hv
  exact distinct.2.2 u.ref (List.mem_map_of_mem hu) v.ref (List.mem_map_of_mem hv)

theorem planForm_tail {u : PlanUnit} {us : List PlanUnit} (form : PlanForm (u :: us)) :
    PlanForm us :=
  planForm_sublist (List.sublist_cons_self u us) form

/-- No unit after the first shares its identity. -/
theorem planForm_fresh {u : PlanUnit} {us : List PlanUnit} (form : PlanForm (u :: us)) :
    u.ref ∉ us.map PlanUnit.ref ∧ ∀ v ∈ us, v.ref ≠ u.ref := by
  have hfresh : u.ref ∉ us.map PlanUnit.ref := (List.nodup_cons.mp form.distinct).1
  exact ⟨hfresh, fun v hv h => hfresh (h ▸ List.mem_map_of_mem hv)⟩

theorem planForm_reverse {us : List PlanUnit} (form : PlanForm us) : PlanForm us.reverse where
  distinct := by
    rw [List.map_reverse]
    exact List.nodup_reverse.mpr form.distinct
  named u hu := form.named u (List.mem_reverse.mp hu)
  undo u hu := form.undo u (List.mem_reverse.mp hu)

/-! ### Which objects the events are about -/

theorem attempted_append (first second : List Event) (u : PlanUnit) :
    Attempted (first ++ second) u ↔ Attempted first u ∨ Attempted second u := by
  unfold Attempted
  rw [callTrail_append, List.mem_append]

theorem confined_append {us : List PlanUnit} {first second : List Event}
    (hfirst : Confined us first) (hsecond : Confined us second) :
    Confined us (first ++ second) := by
  intro call hcall
  rw [callTrail_append, List.mem_append] at hcall
  rcases hcall with hcall | hcall
  · obtain ⟨u, hu, htouched, hattempted⟩ := hfirst call hcall
    exact ⟨u, hu, htouched, (attempted_append _ _ _).mpr (.inl hattempted)⟩
  · obtain ⟨u, hu, htouched, hattempted⟩ := hsecond call hcall
    exact ⟨u, hu, htouched, (attempted_append _ _ _).mpr (.inr hattempted)⟩

theorem confined_mono {us vs : List PlanUnit} {events : List Event} (h : us ⊆ vs)
    (confined : Confined us events) : Confined vs events := by
  intro call hcall
  obtain ⟨u, hu, htouched, hattempted⟩ := confined call hcall
  exact ⟨u, h hu, htouched, hattempted⟩

theorem confined_nil (us : List PlanUnit) : Confined us [] := by
  intro call hcall
  cases hcall

theorem confined_delete {us : List PlanUnit} {u : PlanUnit} (hu : u ∈ us)
    (removed : (GatewayCall.delete u.ref).Result) :
    Confined us [.call (.delete u.ref) removed] := by
  intro call hcall
  obtain rfl : call = .delete u.ref := List.mem_singleton.mp hcall
  exact ⟨u, hu, rfl, hcall⟩

theorem confined_delete_create {us : List PlanUnit} {u : PlanUnit} (hu : u ∈ us)
    (named : Manifest.name? u.manifest = some u.name)
    (removed : (GatewayCall.delete u.ref).Result)
    (result : (GatewayCall.create u.ref.ns u.ref.kind u.manifest).Result) :
    Confined us [.call (.delete u.ref) removed,
      .call (.create u.ref.ns u.ref.kind u.manifest) result] := by
  intro call hcall
  refine ⟨u, hu, ?_, List.mem_cons_self⟩
  rcases List.mem_cons.mp hcall with rfl | hcreate
  · rfl
  · obtain rfl := List.mem_singleton.mp hcreate
    rw [touched, named]
    rfl

theorem rollback_target {us : List PlanUnit} {u : PlanUnit} {target : Ref} (form : PlanForm us)
    (hu : u ∈ us) (action : u.rollback = some target) : target = u.ref := by
  rcases form.undo u hu with h | h
  · cases action.symm.trans h
  · exact Option.some.inj (action.symm.trans h)

theorem created_confined {us : List PlanUnit} {events : List Event}
    (created : UnitsCreated us events)
    (named : ∀ u ∈ us, Manifest.name? u.manifest = some u.name) : Confined us events := by
  induction created with
  | nil => exact confined_nil []
  | @cons u us events removed made settled rest ih =>
    obtain ⟨hnamed, hothers⟩ := List.forall_mem_cons.mp named
    have hunit : Confined (u :: us) [.call (.delete u.ref) removed,
        .call (.create u.ref.ns u.ref.kind u.manifest) (.ok made), .audit ⟨.create, made⟩] :=
      confined_delete_create List.mem_cons_self hnamed removed (.ok made)
    exact confined_append hunit (confined_mono (List.subset_cons_self u us) (ih hothers))

theorem unitsCreated_confined {us : List PlanUnit} {events : List Event}
    (created : UnitsCreated us events) (form : PlanForm us) : Confined us events :=
  created_confined created form.named

theorem unitFails_confined {us : List PlanUnit} {u : PlanUnit} {events : List Event}
    {report : Report ProvisionError} (fails : UnitFails u events report) (form : PlanForm us)
    (hu : u ∈ us) : Confined us events := by
  cases fails with
  | atDelete stuck => exact confined_delete hu _
  | atCreate settled => exact confined_delete_create hu (form.named u hu) _ _

theorem unitAbandoned_confined {cancel : Cancellation} {finished : Nat} {us : List PlanUnit}
    {u : PlanUnit} {events : List Event} (abandoned : UnitAbandoned cancel finished u events)
    (hu : u ∈ us) : Confined us events := by
  cases abandoned with
  | unbegun fired => exact confined_nil us
  | atDelete fired => exact confined_nil us
  | atCreate settled fired => exact confined_delete hu _

theorem unitsUndone_confined {us : List PlanUnit} {events : List Event} {left : List Ref}
    {failures : List (Report ProvisionError)} (undone : UnitsUndone us events left failures)
    (form : PlanForm us) : Confined us events := by
  induction undone with
  | nil => exact confined_nil []
  | @permanent u us events left failures action rest ih =>
    have hrest := ih (planForm_tail form)
    exact confined_mono (List.subset_cons_self u us) hrest
  | @undone u us events left failures target removed action settled rest ih =>
    obtain rfl := rollback_target form List.mem_cons_self action
    have hunit : Confined (u :: us)
        [.call (.delete u.ref) removed, .audit ⟨.rollback, u.ref⟩] :=
      confined_delete List.mem_cons_self removed
    have hrest := ih (planForm_tail form)
    exact confined_append hunit (confined_mono (List.subset_cons_self u us) hrest)
  | @orphaned u us events left failures target report action stuck rest ih =>
    obtain rfl := rollback_target form List.mem_cons_self action
    have hrest := ih (planForm_tail form)
    exact confined_append (confined_delete List.mem_cons_self (.error report))
      (confined_mono (List.subset_cons_self u us) hrest)

theorem ending_confined {cancel : Cancellation} {made rest : List PlanUnit}
    {events : List Event} {result : ApplyResult} (ending : Ending cancel made rest events result)
    (form : PlanForm (made ++ rest)) : Confined (made ++ rest) events := by
  have head_mem : ∀ (u : PlanUnit) (rest : List PlanUnit), u ∈ made ++ u :: rest :=
    fun u rest => List.mem_append_right made List.mem_cons_self
  cases ending with
  | completed => exact confined_nil _
  | cancelled abandoned => exact unitAbandoned_confined abandoned (head_mem _ _)
  | kept fails policy => exact unitFails_confined fails form (head_mem _ _)
  | @rolledBack u rest tried undo report left failures fails policy undone =>
    have hmade := planForm_sublist (List.sublist_append_left made (u :: rest)) form
    have hundo := unitsUndone_confined undone (planForm_reverse hmade)
    have hsubset : made.reverse ⊆ made ++ u :: rest := fun v hv =>
      List.mem_append_left _ (List.mem_reverse.mp hv)
    exact confined_append (unitFails_confined fails form (head_mem u rest))
      (confined_mono hsubset hundo)

theorem course_confined {cancel : Cancellation} {us : List PlanUnit} {events : List Event}
    {result : ApplyResult} (course : Course cancel us events result) (form : PlanForm us) :
    Confined us events := by
  obtain ⟨made, rest, done, tail, rfl, rfl, created, ending⟩ := course
  have hmade := planForm_sublist (List.sublist_append_left made rest) form
  exact confined_append
    (confined_mono (List.subset_append_left made rest) (unitsCreated_confined created hmade))
    (ending_confined ending form)

/-- An object of no unit that the events begin stays as it is. -/
theorem confined_frame {us : List PlanUnit} {events : List Event} {c c' : MemoryCluster}
    {target : Ref} (confined : Confined us events) (served : Serves gateway c events c')
    (apart : ∀ u ∈ us, Attempted events u → u.ref ≠ target) :
    c'.object? target = c.object? target := by
  refine serves_frame served fun call hcall htouched => ?_
  obtain ⟨u, hu, hunit, hattempted⟩ := confined call hcall
  exact apart u hu hattempted (Option.some.inj (hunit.symm.trans htouched))

theorem confined_frame_outside {us : List PlanUnit} {events : List Event} {c c' : MemoryCluster}
    {target : Ref} (confined : Confined us events) (served : Serves gateway c events c')
    (outside : target ∉ us.map PlanUnit.ref) : c'.object? target = c.object? target :=
  confined_frame confined served fun _ hu _ h => outside (h ▸ List.mem_map_of_mem hu)

/-! ### What is created -/

theorem createdIn_append (first second : List Event) (target : Ref) :
    CreatedIn (first ++ second) target ↔ CreatedIn first target ∨ CreatedIn second target := by
  simp only [CreatedIn, List.mem_append, exists_or]

theorem unit_store {u : PlanUnit} {removed : (GatewayCall.delete u.ref).Result} {made : Ref}
    {c c' : MemoryCluster} (named : Manifest.name? u.manifest = some u.name)
    (served : Serves gateway c [.call (.delete u.ref) removed,
      .call (.create u.ref.ns u.ref.kind u.manifest) (.ok made), .audit ⟨.create, made⟩] c') :
    made = u.ref ∧ (c'.object? u.ref).isSome := by
  obtain ⟨d, -, e, hcreate, rfl⟩ := served
  change d.create u.ref.ns u.ref.kind u.manifest = (.ok made, c') at hcreate
  rcases create_cases d u.ref.ns u.ref.kind named with ⟨report, herror, -⟩ | ⟨hok, -, hstore⟩
  · rw [hcreate] at herror
    cases herror
  · rw [hcreate] at hok hstore
    refine ⟨Except.ok.inj hok, ?_⟩
    rw [hstore u.ref]
    exact if_pos rfl ▸ rfl

/-- Creating units puts their objects there, and these are the objects that creates succeed
with. -/
theorem unitsCreated_store {us : List PlanUnit} {events : List Event}
    (created : UnitsCreated us events) (form : PlanForm us) {c c' : MemoryCluster}
    (served : Serves gateway c events c') :
    (∀ u ∈ us, (c'.object? u.ref).isSome) ∧
      ∀ target, CreatedIn events target ↔ target ∈ us.map PlanUnit.ref := by
  induction created generalizing c with
  | nil =>
    refine ⟨fun u hu => absurd hu List.not_mem_nil, fun target => ⟨?_, ?_⟩⟩
    · rintro ⟨ns, kind, manifest, hmem⟩
      cases hmem
    · intro hmem
      cases hmem
  | @cons u us events removed made settled rest ih =>
    have hsplit : Serves gateway c ([.call (.delete u.ref) removed,
        .call (.create u.ref.ns u.ref.kind u.manifest) (.ok made), .audit ⟨.create, made⟩] ++
          events) c' := served
    obtain ⟨d, hunit, hrest⟩ := (serves_append _ _ _ _ _).mp hsplit
    obtain ⟨rfl, hstored⟩ := unit_store (form.named u List.mem_cons_self) hunit
    have hform := planForm_tail form
    obtain ⟨hall, hcreated⟩ := ih hform hrest
    obtain ⟨hfresh, -⟩ := planForm_fresh form
    have hkept : c'.object? u.ref = d.object? u.ref :=
      confined_frame_outside (unitsCreated_confined rest hform) hrest hfresh
    refine ⟨fun v hv => ?_, fun target => ?_⟩
    · rcases List.mem_cons.mp hv with rfl | hv
      · rw [hkept]
        exact hstored
      · exact hall v hv
    · rw [List.map_cons, List.mem_cons, ← hcreated target]
      constructor
      · rintro ⟨ns, kind, manifest, hmem⟩
        rcases List.mem_cons.mp hmem with h | hmem
        · cases h
        · rcases List.mem_cons.mp hmem with h | hmem
          · cases h
            exact .inl rfl
          · exact .inr ⟨ns, kind, manifest, (List.mem_cons.mp hmem).resolve_left (by simp)⟩
      · rintro (rfl | ⟨ns, kind, manifest, hmem⟩)
        · exact ⟨_, _, _, List.mem_cons_of_mem _ List.mem_cons_self⟩
        · exact ⟨ns, kind, manifest, by simp [hmem]⟩

theorem unitFails_creates_nothing {u : PlanUnit} {events : List Event}
    {report : Report ProvisionError} (fails : UnitFails u events report) (target : Ref) :
    ¬CreatedIn events target := by
  rintro ⟨ns, kind, manifest, hmem⟩
  cases fails <;> simp at hmem

theorem unitAbandoned_creates_nothing {cancel : Cancellation} {finished : Nat} {u : PlanUnit}
    {events : List Event} (abandoned : UnitAbandoned cancel finished u events) (target : Ref) :
    ¬CreatedIn events target := by
  rintro ⟨ns, kind, manifest, hmem⟩
  cases abandoned <;> simp at hmem

theorem unitsUndone_creates_nothing {us : List PlanUnit} {events : List Event} {left : List Ref}
    {failures : List (Report ProvisionError)} (undone : UnitsUndone us events left failures)
    (target : Ref) : ¬CreatedIn events target := by
  rintro ⟨ns, kind, manifest, hmem⟩
  induction undone with
  | nil => cases hmem
  | permanent action rest ih => exact ih hmem
  | undone action settled rest ih =>
    simp only [List.mem_cons, reduceCtorEq, false_or, Event.call.injEq] at hmem
    exact ih (by simpa using hmem)
  | orphaned action stuck rest ih => exact ih (by simpa using hmem)

theorem ending_creates_nothing {cancel : Cancellation} {made rest : List PlanUnit}
    {events : List Event} {result : ApplyResult} (ending : Ending cancel made rest events result)
    (target : Ref) : ¬CreatedIn events target := by
  cases ending with
  | completed => exact fun ⟨ns, kind, manifest, hmem⟩ => List.not_mem_nil hmem
  | cancelled abandoned => exact unitAbandoned_creates_nothing abandoned target
  | kept fails policy => exact unitFails_creates_nothing fails target
  | rolledBack fails policy undone =>
    rw [createdIn_append]
    exact not_or.mpr ⟨unitFails_creates_nothing fails target,
      unitsUndone_creates_nothing undone target⟩

/-! ### What is left -/

theorem unitsUndone_sublist {us : List PlanUnit} {events : List Event} {left : List Ref}
    {failures : List (Report ProvisionError)} (undone : UnitsUndone us events left failures) :
    left.Sublist (us.map PlanUnit.ref) := by
  induction undone with
  | nil => exact .slnil
  | permanent action rest ih => exact ih.cons_cons _
  | undone action settled rest ih => exact ih.cons _
  | orphaned action stuck rest ih => exact ih.cons_cons _

/-- Undoing removes the objects of the units that it does not report as left, and keeps those that
it does. -/
theorem unitsUndone_store {us : List PlanUnit} {events : List Event} {left : List Ref}
    {failures : List (Report ProvisionError)} (undone : UnitsUndone us events left failures)
    (form : PlanForm us) {c c' : MemoryCluster} (served : Serves gateway c events c') :
    ∀ u ∈ us, c'.object? u.ref = if u.ref ∈ left then c.object? u.ref else none := by
  induction undone generalizing c with
  | nil => exact fun u hu => absurd hu List.not_mem_nil
  | @permanent u us events left failures action rest ih =>
    have hform := planForm_tail form
    obtain ⟨hfresh, hdistinct⟩ := planForm_fresh form
    intro v hv
    rcases List.mem_cons.mp hv with rfl | hv
    · rw [if_pos List.mem_cons_self]
      exact confined_frame_outside (unitsUndone_confined rest hform) served hfresh
    · rw [ih hform served v hv]
      simp only [List.mem_cons, hdistinct v hv, false_or]
  | @undone u us events left failures target removed action settled rest ih =>
    obtain rfl := rollback_target form List.mem_cons_self action
    have hform := planForm_tail form
    obtain ⟨hfresh, hdistinct⟩ := planForm_fresh form
    obtain ⟨d, hdelete, hrest⟩ := served
    obtain ⟨habsent, hothers⟩ := delete_settled hdelete settled
    intro v hv
    rcases List.mem_cons.mp hv with rfl | hv
    · rw [if_neg fun hleft => hfresh ((unitsUndone_sublist rest).subset hleft), ← habsent]
      exact confined_frame_outside (unitsUndone_confined rest hform) hrest hfresh
    · rw [ih hform hrest v hv, hothers v.ref (hdistinct v hv)]
  | @orphaned u us events left failures target report action stuck rest ih =>
    obtain rfl := rollback_target form List.mem_cons_self action
    have hform := planForm_tail form
    obtain ⟨hfresh, hdistinct⟩ := planForm_fresh form
    obtain ⟨d, hdelete, hrest⟩ := served
    have hkept : ∀ other, d.object? other = c.object? other := fun other =>
      congrArg (Assoc.get? · other) (delete_failed hdelete)
    intro v hv
    rcases List.mem_cons.mp hv with rfl | hv
    · rw [if_pos List.mem_cons_self, ← hkept]
      exact confined_frame_outside (unitsUndone_confined rest hform) hrest hfresh
    · rw [ih hform hrest v hv, hkept]
      simp only [List.mem_cons, hdistinct v hv, false_or]

/-- At the end the objects of created units are as they were created if the result lists them, and
gone if it does not. -/
theorem ending_store {cancel : Cancellation} {made rest : List PlanUnit} {events : List Event}
    {result : ApplyResult} (ending : Ending cancel made rest events result)
    (form : PlanForm (made ++ rest)) {c c' : MemoryCluster}
    (served : Serves gateway c events c') :
    ∀ u ∈ made, c'.object? u.ref = if u.ref ∈ result.created then c.object? u.ref else none := by
  have hrest := planForm_sublist (List.sublist_append_right made rest) form
  have apart : ∀ u ∈ made, u.ref ∉ rest.map PlanUnit.ref := by
    intro u hu hmem
    obtain ⟨v, hv, heq⟩ := List.mem_map.mp hmem
    exact refs_apart form.distinct u hu v hv heq.symm
  intro u hu
  have listed : u.ref ∈ made.map PlanUnit.ref := List.mem_map_of_mem hu
  cases ending with
  | completed =>
    obtain rfl := served
    rw [if_pos listed]
  | @cancelled v rest begun abandoned =>
    rw [if_pos (show u.ref ∈ (Apply.cancelled made).created from listed)]
    have confined : Confined (v :: rest) events :=
      unitAbandoned_confined abandoned List.mem_cons_self
    exact confined_frame_outside confined served (apart u hu)
  | kept fails policy =>
    rw [if_pos listed]
    have confined := unitFails_confined fails hrest List.mem_cons_self
    exact confined_frame_outside confined served (apart u hu)
  | @rolledBack failed rest tried undo report left failures fails policy undone =>
    obtain ⟨d, htried, hundo⟩ := (serves_append _ _ _ _ _).mp served
    have hmade := planForm_sublist (List.sublist_append_left made (failed :: rest)) form
    have confined := unitFails_confined fails hrest List.mem_cons_self
    have hstore := unitsUndone_store undone (planForm_reverse hmade) hundo u
      (List.mem_reverse.mpr hu)
    rw [hstore, confined_frame_outside confined htried (apart u hu)]
    simp only [List.mem_reverse]

theorem ending_sublist {cancel : Cancellation} {made rest : List PlanUnit} {events : List Event}
    {result : ApplyResult} (ending : Ending cancel made rest events result) :
    result.created.Sublist (made.map PlanUnit.ref) := by
  cases ending with
  | completed => exact .refl _
  | cancelled abandoned => exact .refl _
  | kept fails policy => exact .refl _
  | rolledBack fails policy undone =>
    have h := (unitsUndone_sublist undone).reverse
    rwa [List.map_reverse, List.reverse_reverse] at h

/-- The result lists units in the order of the plan. -/
theorem course_sublist {cancel : Cancellation} {us : List PlanUnit} {events : List Event}
    {result : ApplyResult} (course : Course cancel us events result) :
    result.created.Sublist (us.map PlanUnit.ref) := by
  obtain ⟨made, rest, done, tail, rfl, rfl, created, ending⟩ := course
  rw [List.map_append]
  exact (ending_sublist ending).trans (List.sublist_append_left _ _)

/-- The result lists the objects that the run created and that are there at the end. -/
theorem mem_created_iff {cancel : Cancellation} {us : List PlanUnit} {events : List Event}
    {result : ApplyResult} (course : Course cancel us events result) (form : PlanForm us)
    {c c' : MemoryCluster} (served : Serves gateway c events c') (target : Ref) :
    target ∈ result.created ↔ CreatedIn events target ∧ (c'.object? target).isSome := by
  obtain ⟨made, rest, done, tail, rfl, rfl, created, ending⟩ := course
  obtain ⟨d, hdone, htail⟩ := (serves_append _ _ _ _ _).mp served
  have hmade := planForm_sublist (List.sublist_append_left made rest) form
  obtain ⟨present, hcreated⟩ := unitsCreated_store created hmade hdone
  -- Creates succeed in the first part only, so what the run creates are the units made there.
  have hevents : CreatedIn (done ++ tail) target ↔ target ∈ made.map PlanUnit.ref := by
    rw [createdIn_append, hcreated, or_iff_left (ending_creates_nothing ending target)]
  rw [hevents]
  constructor
  · intro hlisted
    have hmem := (ending_sublist ending).subset hlisted
    obtain ⟨u, hu, rfl⟩ := List.mem_map.mp hmem
    refine ⟨hmem, ?_⟩
    rw [ending_store ending form htail u hu, if_pos hlisted]
    exact present u hu
  · rintro ⟨hmem, hstored⟩
    obtain ⟨u, hu, rfl⟩ := List.mem_map.mp hmem
    by_contra hunlisted
    rw [ending_store ending form htail u hu, if_neg hunlisted] at hstored
    cases hstored

/-- However applying a plan to a cluster in memory ends, the result lists a unit exactly when the
run created it and its object is there at the end, in the order of the plan, and every object whose
unit was not begun is as it was. -/
theorem apply_ledger (c : MemoryCluster) (us : List PlanUnit) (cancel : Cancellation)
    (form : PlanForm us) :
    let (result, c', events) := (Apply.units us cancel).run gateway c
    (∀ u ∈ us, u.ref ∈ result.created ↔
        CreatedIn events u.ref ∧ (c'.object? u.ref).isSome) ∧
      result.created.Sublist (us.map PlanUnit.ref) ∧
      ∀ target, (∀ u ∈ us, Attempted events u → u.ref ≠ target) →
        c'.object? target = c.object? target := by
  rcases h : (Apply.units us cancel).run gateway c with ⟨result, c', events⟩
  obtain ⟨traced, served⟩ := (run_eq_iff _ _ _ _ _ _).mp h
  have course : Course cancel us events result := course_of_traces traced
  refine ⟨fun u _ => mem_created_iff course form served u.ref, course_sublist course, ?_⟩
  intro target apart
  exact confined_frame (course_confined course form) served apart

/-- The ledger of a run in which the third of three units is not created, the second cannot be
undone, and undoing the first fails. -/
theorem apply_ledger_three_units :
    PlanForm threeUnits ∧
      let (result, c', events) := (Apply.units threeUnits .never).run gateway failingCluster
      (∀ u ∈ threeUnits, u.ref ∈ result.created ↔
          CreatedIn events u.ref ∧ (c'.object? u.ref).isSome) ∧
        result.created.Sublist (threeUnits.map PlanUnit.ref) ∧
        ∀ target, (∀ u ∈ threeUnits, Attempted events u → u.ref ≠ target) →
          c'.object? target = failingCluster.object? target :=
  have form : PlanForm threeUnits := ⟨by decide, by decide, by decide⟩
  ⟨form, apply_ledger failingCluster threeUnits .never form⟩

example : ((Apply.units threeUnits .never).run gateway failingCluster).1.created =
    [⟨.pod, "ns", "one"⟩, ⟨.service, "ns", "two"⟩] := by
  decide

end ClusterProvisioning.Proofs
