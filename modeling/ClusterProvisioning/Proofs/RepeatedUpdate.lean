import ClusterProvisioning.Proofs.SessionLife
import ClusterProvisioning.Proofs.SpentEdits
import ClusterProvisioning.Proofs.UpdateFrame

/-!
# Updates that are made again

On a cluster without faults an update that was accepted can be made again, and then replaces the
same objects and changes none of them (`update_again`). Each edit of the first run leaves an object
that the same edit leaves as it is (`made_steady`); edits of such objects are made one after the
other (`editsCourse_steady`).
-/

namespace ClusterProvisioning.Proofs
open Program MemoryCluster Plan SessionUpdate

variable {units : List Ref} {u : SessionUpdate} {c c' : MemoryCluster} {events : List Event}

/-- The recorded pod is stored under the name that it has itself. -/
def OwnName (units : List Ref) (c : MemoryCluster) : Prop :=
  ∀ pod stored, unitOf? units .pod = some pod → c.object? pod = some stored →
    Manifest.name? stored = some pod.name

/-! ### The first run -/

/-- Where an edit of an update was made, its target stands and is left as it is by the edit. -/
theorem made_steady {edit : Edit} {made : Ref} (own : OwnName units c)
    (asked : Asked units u edit) (edited : Made c c' edit made) :
    made = edit.target ∧ ∃ object, c'.object? edit.target = some object ∧ Steady edit object := by
  obtain ⟨stored, manifest, object, replaces⟩ := edited
  have standing : made = edit.target → Steady edit object → made = edit.target ∧
      ∃ object, c'.object? edit.target = some object ∧ Steady edit object := by
    rintro rfl steady
    exact ⟨rfl, object, replaces.live, steady⟩
  cases asked with
  | @pod pod changes touches first checked =>
    have recreated : pod.kind.patchableInPlace = false :=
      (unitOf?_patchable first).trans (by decide)
    have named : Manifest.name? stored = some pod.name := own pod stored first replaces.present
    have kept : Manifest.name? manifest = some pod.name := by
      obtain ⟨members, -, rfl⟩ := podEdit_ok replaces.changed
      exact (modifySpec_name? _ _ _).trans ((retains_withoutServerFields stored).name?.trans named)
    exact standing (replaces.lands.self fun _ => kept)
      (podEdit_steady checked recreated named replaces.changed (replaces.recreated recreated))
  | @service service port asked first =>
    have inPlace : service.kind.patchableInPlace = true :=
      (unitOf?_patchable first).trans (by decide)
    exact standing (replaces.lands.inPlace inPlace)
      (serviceEdit_steady inPlace replaces.changed (replaces.patched inPlace))
  | @route route port asked first =>
    have inPlace : route.kind.patchableInPlace = true :=
      (unitOf?_patchable first).trans (by decide)
    exact standing (replaces.lands.inPlace inPlace)
      (routeEdit_steady inPlace replaces.changed (replaces.patched inPlace))

theorem targets_of_made {edits : List Edit} {replaced : List Ref}
    (all : List.Forall₂ (Made c c') edits replaced)
    (self : ∀ edit ∈ edits, ∀ made, Made c c' edit made → made = edit.target) :
    replaced = edits.map Edit.target := by
  induction all with
  | nil => rfl
  | @cons edit made edits replaced hmade others ih =>
    obtain ⟨hfirst, hrest⟩ := List.forall_mem_cons.mp self
    rw [hfirst made hmade, ih hrest, List.map_cons]

/-! ### The second run -/

theorem editCourse_steady {edit : Edit} {object : Json} {answer : Except UpdateFailure Ref}
    (unarmed : Unarmed c) (present : c.object? edit.target = some object)
    (steady : Steady edit object) (course : EditCourse edit events answer)
    (served : Serves gateway c events c') : answer = .ok edit.target ∧ SameObjects c c' := by
  obtain ⟨manifest, changed, named, restored⟩ := steady
  obtain ⟨hanswer, stored, ⟨used, rfl⟩, put⟩ :=
    editCourse_unarmed unarmed present changed named course served
  refine ⟨hanswer, fun target => ?_⟩
  by_cases h : target = edit.target
  · rw [h, put.self, restored, present]
  · exact put.other h

/-- Edits that leave their targets as they are can all be made, and leave all objects. -/
theorem editsCourse_steady {edits : List Edit} {answer : Except UpdateFailure (List Ref)}
    (unarmed : Unarmed c)
    (steady : ∀ edit ∈ edits, ∃ object, c.object? edit.target = some object ∧ Steady edit object)
    (course : EditsCourse edits events answer) (served : Serves gateway c events c') :
    answer = .ok (edits.map Edit.target) ∧ SameObjects c c' := by
  induction edits generalizing c events answer with
  | nil =>
    cases course
    obtain rfl := served
    exact ⟨rfl, fun target => rfl⟩
  | cons edit rest ih =>
    obtain ⟨⟨object, present, hsteady⟩, hrest⟩ := List.forall_mem_cons.mp steady
    have first : ∀ events answer d, EditCourse edit events answer → Serves gateway c events d →
        answer = .ok edit.target ∧ Unarmed d ∧ SameObjects c d := by
      intro events answer d edited run
      obtain ⟨hanswer, same⟩ := editCourse_steady unarmed present hsteady edited run
      exact ⟨hanswer, serves_unarmed unarmed run, same⟩
    obtain ⟨d, second, others, ⟨hd, same⟩, hothers, hsecond, rfl⟩ :=
      editsCourse_first course served first
    have later : ∀ edit ∈ rest,
        ∃ object, d.object? edit.target = some object ∧ Steady edit object := by
      intro later hlater
      rw [same later.target]
      exact hrest later hlater
    obtain ⟨rfl, kept⟩ := ih hd later hothers hsecond
    exact ⟨rfl, fun target => (kept target).trans (same target)⟩

/-- An update that was accepted is accepted again, replaces the same objects, and leaves every
object as it is. -/
theorem update_again (units : List Ref) (u : SessionUpdate) (c c' : MemoryCluster)
    (replaced : List Ref) (events : List Event) (unarmed : Unarmed c) (own : OwnName units c)
    (run : (u.run units).run gateway c = (.ok replaced, c', events)) :
    ∃ c'' again, (u.run units).run gateway c' = (.ok replaced, c'', again) ∧
      SameObjects c' c'' := by
  obtain ⟨course, served⟩ := course_of_run run
  obtain ⟨w, settled, edited⟩ := edits_of_update course
  have made := editsCourse_made edited (edits_apart settled) served fun _ _ _ _ => rfl
  have steady : ∀ edit ∈ edits units u.gpu w, ∀ made, Made c c' edit made → made = edit.target ∧
      ∃ object, c'.object? edit.target = some object ∧ Steady edit object :=
    fun edit hedit made h => made_steady own ((mem_edits_iff settled).mp hedit) h
  have targets : replaced = (edits units u.gpu w).map Edit.target :=
    targets_of_made made fun edit hedit made h => (steady edit hedit made h).1
  have standing : ∀ edit ∈ edits units u.gpu w,
      ∃ object, c'.object? edit.target = some object ∧ Steady edit object := by
    intro edit hedit
    obtain ⟨_, -, h⟩ := made_of_mem made hedit
    exact (steady edit hedit _ h).2
  rcases hagain : (u.run units).run gateway c' with ⟨answer, c'', again⟩
  obtain ⟨course', served'⟩ := course_of_run hagain
  obtain ⟨rfl, same⟩ := editsCourse_steady (serves_unarmed unarmed served) standing
    (edits_of_settled settled course') served'
  exact ⟨c'', again, by rw [targets], same⟩

theorem update_again_lab :
    let c := labCluster (.object []) [.object [("port", number16 80)]]
    Unarmed c ∧ OwnName labUnits c ∧ ∃ c' events,
      (labUpdate.run labUnits).run gateway c = (.ok labUnits, c', events) ∧
      ∃ c'' again, (labUpdate.run labUnits).run gateway c' = (.ok labUnits, c'', again) ∧
        SameObjects c' c'' := by
  intro c
  have own : OwnName labUnits c := fun pod stored first present =>
    (lab_own _ _ pod stored first present).1
  exact ⟨rfl, own, _, _, rfl, update_again labUnits labUpdate c _ labUnits _ rfl own rfl⟩

end ClusterProvisioning.Proofs
