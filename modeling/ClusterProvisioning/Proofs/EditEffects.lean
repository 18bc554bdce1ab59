import ClusterProvisioning.Proofs.LiveObjects
import ClusterProvisioning.Proofs.UpdateWork

/-!
# What edits leave on a cluster

An edit that is made puts one object in the place of its target, whatever faults are armed: its
manifest is that of the object that stood there, changed, and nothing else of its kind changes
(`Replaces`). Edits of an update have targets of different kinds, so what each of them replaced is
still there after the last one (`replaced_of_update`). An edit that fails touches no object of
another kind, and none at all if its target is patched in place.
-/

namespace ClusterProvisioning.Proofs
open Program MemoryCluster SessionUpdate

variable {c c' : MemoryCluster} {events : List Event}

/-- Of the objects of one kind, an edit replaced the one that stood at its target. -/
structure Replaces (c : MemoryCluster) (edit : Edit) (made : Ref) (stored manifest object : Json)
    (c' : MemoryCluster) : Prop where
  present : c.object? edit.target = some stored
  changed : edit.change (withoutServerFields stored) = .ok manifest
  submitted : StoredAs (resubmitted edit.target stored manifest) object
  lands : Lands edit.target manifest made
  objects : ∀ other, other.kind = edit.target.kind → c'.object? other =
    if other = made then some object else if other = edit.target then none else c.object? other

theorem Replaces.live {edit : Edit} {made : Ref} {stored manifest object : Json}
    (replaces : Replaces c edit made stored manifest object c') :
    c'.object? made = some object := by
  rw [replaces.objects made replaces.lands.kind, if_pos rfl]

theorem Replaces.retains {edit : Edit} {made : Ref} {stored manifest object : Json}
    (replaces : Replaces c edit made stored manifest object c') : Retains manifest object :=
  (retains_resubmitted edit.target stored manifest).trans (retains_of_stored replaces.submitted)

/-! ### One edit -/

theorem replaceCourse_kind {target : Ref} {manifest : Json} {outcome : Outcome Ref}
    (course : ReplaceCourse target manifest events outcome) :
    ∀ call ∈ callTrail events, ∀ other, touched call = some other → other.kind = target.kind := by
  have own : ∀ other, some target = some other → other.kind = target.kind := by
    rintro other ⟨⟩
    rfl
  have created : ∀ other, touched (.create target.ns target.kind manifest) = some other →
      other.kind = target.kind := by
    intro other h
    obtain ⟨name, -, rfl⟩ := Option.map_eq_some_iff.mp h
    rfl
  cases course with
  | unpatched | patched | stuck => exact List.forall_mem_singleton.mpr own
  | lost | recreated => exact List.forall_mem_cons.mpr ⟨own, List.forall_mem_singleton.mpr created⟩

/-- The call reads an object or can change it. -/
def CallsOn (target : Ref) (call : GatewayCall) : Prop :=
  call = .get target ∨ touched call = some target

theorem editCourse_calls {edit : Edit} {answer : Except UpdateFailure Ref} {other : Ref}
    (course : EditCourse edit events answer) (apart : other.kind ≠ edit.target.kind) :
    ∀ call ∈ callTrail events, ¬CallsOn other call := by
  have read : ¬CallsOn other (.get edit.target) := by
    rintro (h | h)
    · cases h
      exact apart rfl
    · cases h
  cases course with
  | unread => exact List.forall_mem_singleton.mpr read
  | unchanged => exact List.forall_mem_singleton.mpr read
  | submitted changed replaced =>
    refine List.forall_mem_cons.mpr ⟨read, ?_⟩
    rintro call hcall (rfl | htouched)
    · obtain ⟨_, hevent⟩ := mem_callTrail.mp hcall
      cases replaced <;> simp at hevent
    · exact apart (replaceCourse_kind replaced call hcall other htouched)

theorem editCourse_frame {edit : Edit} {answer : Except UpdateFailure Ref} {other : Ref}
    (course : EditCourse edit events answer) (served : Serves gateway c events c')
    (apart : other.kind ≠ edit.target.kind) : c'.object? other = c.object? other :=
  serves_frame served fun call hcall htouched =>
    editCourse_calls course apart call hcall (.inr htouched)

/-- An edit that is made replaces the object at its target. -/
theorem editCourse_replaces {edit : Edit} {made : Ref} (course : EditCourse edit events (.ok made))
    (served : Serves gateway c events c') :
    ∃ stored manifest object, Replaces c edit made stored manifest object c' := by
  generalize hanswer : (Except.ok made : Except UpdateFailure Ref) = answer at course
  cases course with
  | unread => cases hanswer
  | unchanged refused => cases hanswer
  | @submitted stored manifest rest outcome changed replaced =>
    obtain rfl : outcome = .ok made := by
      cases outcome <;> cases hanswer
      rfl
    obtain ⟨d, hget, hrest⟩ := served
    obtain ⟨present, hobjects⟩ := get_found hget
    have hsame : ∀ other, d.object? other = c.object? other := fun other =>
      congrArg (Assoc.get? · other) hobjects
    obtain ⟨lands, object, submitted, objects⟩ :=
      replaceCourse_made ((hsame _).trans present) replaced hrest
    refine ⟨stored, manifest, object, present, changed, submitted, lands, fun other _ => ?_⟩
    rw [objects other, hsame other]

/-- An edit in place that fails changes no object. -/
theorem editCourse_failed {edit : Edit} {failure : UpdateFailure}
    (inPlace : edit.target.kind.patchableInPlace = true)
    (course : EditCourse edit events (.error failure)) (served : Serves gateway c events c') :
    c'.objects = c.objects := by
  have read : ∀ {d} {found : (GatewayCall.get edit.target).Result},
      gateway.answer (.get edit.target) c = (found, d) → d.objects = c.objects := by
    intro d found hget
    have := get_objects c edit.target
    rwa [show c.get edit.target = (found, d) from hget] at this
  generalize hanswer : (Except.error failure : Except UpdateFailure Ref) = answer at course
  cases course with
  | unread =>
    obtain ⟨d, hget, rfl⟩ := served
    exact read hget
  | unchanged refused =>
    obtain ⟨d, hget, rfl⟩ := served
    exact read hget
  | @submitted stored manifest rest outcome changed replaced =>
    obtain ⟨d, hget, hrest⟩ := served
    rw [← read hget]
    cases replaced with
    | unpatched =>
      obtain ⟨e, hupdate, rfl⟩ := hrest
      change d.update edit.target manifest = (_, c') at hupdate
      rcases update_cases d edit.target manifest with ⟨report, -, hobjects⟩ | ⟨found, hok, -⟩
      · rwa [hupdate] at hobjects
      · rw [hupdate] at hok
        cases hok
    | patched => cases hanswer
    | recreated => cases hanswer
    | stuck recreated => exact absurd inPlace (Bool.eq_false_iff.mp recreated)
    | lost recreated => exact absurd inPlace (Bool.eq_false_iff.mp recreated)

/-! ### All edits -/

/-- Objects of a kind that no edit is of are not called on. -/
theorem editsCourse_calls {edits : List Edit} {answer : Except UpdateFailure (List Ref)}
    {other : Ref} (course : EditsCourse edits events answer)
    (apart : ∀ edit ∈ edits, other.kind ≠ edit.target.kind) :
    ∀ call ∈ callTrail events, ¬CallsOn other call := by
  induction course with
  | nil => exact fun call hcall => nomatch hcall
  | failed course => exact editCourse_calls course (apart _ List.mem_cons_self)
  | cons course others ih =>
    obtain ⟨hfirst, hrest⟩ := List.forall_mem_cons.mp apart
    rw [callTrail_append]
    exact List.forall_mem_append.mpr ⟨editCourse_calls course hfirst, ih hrest⟩

/-- An object is as before, and no call was made on it. -/
def Untouched (c c' : MemoryCluster) (events : List Event) (target : Ref) : Prop :=
  c'.object? target = c.object? target ∧ ∀ call ∈ callTrail events, ¬CallsOn target call

theorem editsCourse_frame {edits : List Edit} {answer : Except UpdateFailure (List Ref)}
    {other : Ref} (course : EditsCourse edits events answer) (served : Serves gateway c events c')
    (apart : ∀ edit ∈ edits, other.kind ≠ edit.target.kind) :
    c'.object? other = c.object? other :=
  serves_frame served fun call hcall htouched =>
    editsCourse_calls course apart call hcall (.inr htouched)

/-- Of the objects of its kind, an edit replaced one. -/
def Made (c c' : MemoryCluster) (edit : Edit) (made : Ref) : Prop :=
  ∃ stored manifest object, Replaces c edit made stored manifest object c'

/-- Edits of different kinds that are all made replace one object each, in their order. They do so
from any cluster that differs from the one they are made on in objects of other kinds only. -/
theorem editsCourse_made {base : MemoryCluster} {edits : List Edit} {replaced : List Ref}
    (course : EditsCourse edits events (.ok replaced))
    (apart : edits.Pairwise fun edit other => edit.target.kind ≠ other.target.kind)
    (served : Serves gateway c events c')
    (same : ∀ edit ∈ edits, ∀ other, other.kind = edit.target.kind →
      c.object? other = base.object? other) :
    List.Forall₂ (Made base c') edits replaced := by
  generalize hanswer : (Except.ok replaced : Except UpdateFailure (List Ref)) = answer at course
  induction course generalizing c replaced with
  | nil =>
    cases hanswer
    exact .nil
  | failed course => cases hanswer
  | @cons edit rest first second made answer course others ih =>
    cases answer with
    | error failure => cases hanswer
    | ok later =>
      cases hanswer
      obtain ⟨hfirst, hrest⟩ := List.pairwise_cons.mp apart
      obtain ⟨hsame, hsames⟩ := List.forall_mem_cons.mp same
      obtain ⟨d, hmade, hothers⟩ := (serves_append _ _ _ _ _).mp served
      obtain ⟨stored, manifest, object, replaces⟩ := editCourse_replaces course hmade
      refine .cons ⟨stored, manifest, object, { replaces with present := ?_, objects := ?_ }⟩ ?_
      · exact (hsame _ rfl).symm.trans replaces.present
      · intro other hkind
        rw [editsCourse_frame others hothers fun later hlater => hkind ▸ hfirst later hlater,
          replaces.objects other hkind, hsame other hkind]
      · have later : ∀ edit ∈ rest, ∀ other, other.kind = edit.target.kind →
            d.object? other = base.object? other := by
          intro later hlater other hkind
          rw [editCourse_frame course hmade fun heq => hfirst later hlater (heq.symm.trans hkind)]
          exact hsames later hlater other hkind
        exact ih hrest hothers later rfl

theorem made_of_mem {edits : List Edit} {replaced : List Ref}
    (all : List.Forall₂ (Made c c') edits replaced) {edit : Edit} (h : edit ∈ edits) :
    ∃ made ∈ replaced, Made c c' edit made := by
  induction all with
  | nil => cases h
  | @cons first made edits replaced hmade others ih =>
    rcases List.mem_cons.mp h with rfl | h
    · exact ⟨made, List.mem_cons_self, hmade⟩
    · obtain ⟨other, hother, hmade⟩ := ih h
      exact ⟨other, List.mem_cons_of_mem _ hother, hmade⟩

/-! ### Updates -/

theorem course_of_run {units : List Ref} {u : SessionUpdate}
    {answer : Except UpdateFailure (List Ref)}
    (run : (u.run units).run gateway c = (answer, c', events)) :
    UpdateCourse units u events answer ∧ Serves gateway c events c' := by
  obtain ⟨traced, served⟩ := (run_eq_iff _ _ _ _ _ _).mp run
  exact ⟨course_of_update traced, served⟩

/-- An update that can be checked carries out its edits. -/
theorem edits_of_settled {units : List Ref} {u : SessionUpdate} {w : Work}
    {answer : Except UpdateFailure (List Ref)} (settled : work units u = .ok w)
    (course : UpdateCourse units u events answer) :
    EditsCourse (edits units u.gpu w) events answer := by
  cases course with
  | idle empty =>
    cases (work_idle empty).symm.trans settled
    exact .nil
  | refused refused => cases refused.symm.trans settled
  | carried settled' edited =>
    cases settled'.symm.trans settled
    exact edited

/-- An update that is accepted could be checked, and its edits were made. -/
theorem edits_of_update {units : List Ref} {u : SessionUpdate} {replaced : List Ref}
    (course : UpdateCourse units u events (.ok replaced)) :
    ∃ w, work units u = .ok w ∧ EditsCourse (edits units u.gpu w) events (.ok replaced) := by
  obtain ⟨w, settled⟩ : ∃ w, work units u = .ok w := by
    cases course with
    | idle empty => exact ⟨_, work_idle empty⟩
    | carried settled => exact ⟨_, settled⟩
  exact ⟨w, settled, edits_of_settled settled course⟩

/-- An update that is accepted made every edit that it asks for, and called on objects of no other
kind. -/
theorem replaced_of_update {units : List Ref} {u : SessionUpdate} {replaced : List Ref}
    (course : UpdateCourse units u events (.ok replaced)) (served : Serves gateway c events c') :
    (∃ w, work units u = .ok w) ∧
      (∀ edit, Asked units u edit → ∃ made ∈ replaced, Made c c' edit made) ∧
      ∀ other : Ref, (∀ edit, Asked units u edit → other.kind ≠ edit.target.kind) →
        Untouched c c' events other := by
  obtain ⟨w, settled, edited⟩ := edits_of_update course
  have made := editsCourse_made edited (edits_apart settled) served fun _ _ _ _ => rfl
  refine ⟨⟨w, settled⟩, fun edit asked => ?_, fun other apart => ?_⟩
  · exact made_of_mem made ((mem_edits_iff settled).mpr asked)
  · have hapart : ∀ edit ∈ edits units u.gpu w, other.kind ≠ edit.target.kind := fun edit hedit =>
      apart edit ((mem_edits_iff settled).mp hedit)
    exact ⟨editsCourse_frame edited served hapart, editsCourse_calls edited hapart⟩

end ClusterProvisioning.Proofs
