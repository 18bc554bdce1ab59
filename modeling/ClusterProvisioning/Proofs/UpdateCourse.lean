import ClusterProvisioning.Proofs.ApplyCourse
import ClusterProvisioning.SessionUpdate

/-!
# The course of an update

An update is refused before any call, or it is a list of edits. Each edit reads a live object,
changes its manifest and gives that back to the cluster; the first edit that fails ends the update
(`course_of_update`).
-/

namespace ClusterProvisioning.Proofs
open Program SessionUpdate

variable {α β : Type}

/-- A change to the manifest of a live object. -/
structure Edit where
  target : Ref
  change : Json → Except UpdateFailure Json

/-- Reads the object, changes what can be submitted again, and submits it. -/
def Edit.perform (edit : Edit) : Attempt Ref := do
  let manifest ← fetch edit.target
  let manifest ← (edit.change manifest : Except UpdateFailure Json)
  proceed (Apply.replace edit.target manifest)

/-- New resources for the container of a pod. -/
def podEdit (pod : Ref) (changes : Table Json) (gpu : Option UInt64) : Edit :=
  ⟨pod, fun manifest => (setResources changes gpu manifest).mapError .failed⟩

/-- A new port of a service. -/
def serviceEdit (service : Ref) (port : UInt16) : Edit :=
  ⟨service, assignAt ["spec", "ports", "0"] "port" (.ofNat port.toNat)⟩

/-- A new port that a route leads to. -/
def routeEdit (route : Ref) (port : UInt16) : Edit :=
  ⟨route, assignAt ["spec", "http", "0", "route", "0", "destination", "port"] "number"
    (.ofNat port.toNat)⟩

/-- The edits by which an update that has been checked is carried out. -/
def edits (units : List Ref) (gpu : Option UInt64) (w : Work) : List Edit :=
  (w.pod.map fun pod => podEdit pod.1 pod.2 gpu).toList ++
    match w.service with
    | none => []
    | some (service, port) => serviceEdit service port ::
        ((unitOf? units .virtualService).map fun route => routeEdit route port).toList

theorem carryOut_eq_mapM (units : List Ref) (gpu : Option UInt64) (w : Work) :
    SessionUpdate.carryOut units gpu w = (edits units gpu w).mapM Edit.perform := by
  obtain ⟨pod, service⟩ := w
  unfold SessionUpdate.carryOut edits
  cases pod <;> cases service <;> cases unitOf? units .virtualService <;> simp <;> rfl

/-! ### What can happen -/

/-- The events in which an object is given a new manifest, and the answer. -/
inductive ReplaceCourse (target : Ref) (manifest : Json) : List Event → Outcome Ref → Prop
  | unpatched {report : Report GatewayError} (inPlace : target.kind.patchableInPlace = true) :
      ReplaceCourse target manifest [.call (.update target manifest) (.error report)]
        (.error (.above (.transport (.patch target)) report))
  | patched {updated : Ref} (inPlace : target.kind.patchableInPlace = true) :
      ReplaceCourse target manifest
        [.call (.update target manifest) (.ok updated), .audit ⟨.patch, updated⟩] (.ok updated)
  | stuck {report : Report GatewayError} (recreated : target.kind.patchableInPlace = false)
      (stuck : report.cause.isNotFound = false) :
      ReplaceCourse target manifest [.call (.delete target) (.error report)]
        (.error (deleteFailure target report))
  | lost {removed : (GatewayCall.delete target).Result} {report : Report GatewayError}
      (recreated : target.kind.patchableInPlace = false) (settled : Settles removed) :
      ReplaceCourse target manifest
        [.call (.delete target) removed, .audit ⟨.delete, target⟩,
          .call (.create target.ns target.kind manifest) (.error report)]
        (.error (.above (.transport (.recreate target)) report))
  | recreated {removed : (GatewayCall.delete target).Result} {made : Ref}
      (recreated : target.kind.patchableInPlace = false) (settled : Settles removed) :
      ReplaceCourse target manifest
        [.call (.delete target) removed, .audit ⟨.delete, target⟩,
          .call (.create target.ns target.kind manifest) (.ok made), .audit ⟨.create, made⟩]
        (.ok made)

/-- The events of an edit, and its answer. -/
inductive EditCourse (edit : Edit) : List Event → Except UpdateFailure Ref → Prop
  | unread {report : Report GatewayError} :
      EditCourse edit [.call (.get edit.target) (.error report)]
        (.error (.failed (.above (.transport (.get edit.target)) report)))
  | unchanged {object : Json} {failure : UpdateFailure}
      (refused : edit.change (withoutServerFields object) = .error failure) :
      EditCourse edit [.call (.get edit.target) (.ok object)] (.error failure)
  | submitted {object manifest : Json} {events : List Event} {outcome : Outcome Ref}
      (changed : edit.change (withoutServerFields object) = .ok manifest)
      (replaced : ReplaceCourse edit.target manifest events outcome) :
      EditCourse edit (.call (.get edit.target) (.ok object) :: events) (outcome.mapError .failed)

/-- The events of edits made in order up to the first that fails, and the answer. -/
inductive EditsCourse : List Edit → List Event → Except UpdateFailure (List Ref) → Prop
  | nil : EditsCourse [] [] (.ok [])
  | failed {edit : Edit} {rest : List Edit} {events : List Event} {failure : UpdateFailure}
      (course : EditCourse edit events (.error failure)) :
      EditsCourse (edit :: rest) events (.error failure)
  | cons {edit : Edit} {rest : List Edit} {first second : List Event} {made : Ref}
      {answer : Except UpdateFailure (List Ref)} (course : EditCourse edit first (.ok made))
      (others : EditsCourse rest second answer) :
      EditsCourse (edit :: rest) (first ++ second) (answer.map (made :: ·))

/-- What an update can do, and its answer. -/
inductive UpdateCourse (units : List Ref) (u : SessionUpdate) :
    List Event → Except UpdateFailure (List Ref) → Prop
  | idle (empty : u.isEmpty = true) : UpdateCourse units u [] (.ok [])
  | refused {report : Report ProvisionError} (refused : work units u = .error report) :
      UpdateCourse units u [] (.error (.failed report))
  | carried {w : Work} {events : List Event} {answer : Except UpdateFailure (List Ref)}
      (settled : work units u = .ok w) (course : EditsCourse (edits units u.gpu w) events answer) :
      UpdateCourse units u events answer

/-! ### Attempts -/

theorem traces_attempt_bind {p : Attempt α} {f : α → Attempt β} {events : List Event}
    {b : Except UpdateFailure β} (h : Traces (p >>= f).run events b) :
    (∃ failure, Traces p.run events (.error failure) ∧ b = .error failure) ∨
      ∃ a first second, events = first ++ second ∧ Traces p.run first (.ok a) ∧
        Traces (f a).run second b := by
  obtain ⟨answer, first, second, rfl, hp, hrest⟩ := (traces_bind p.run _ _ _).mp h
  cases answer with
  | error failure =>
    obtain ⟨rfl, rfl⟩ := hrest
    rw [List.append_nil]
    exact .inl ⟨failure, hp, rfl⟩
  | ok a => exact .inr ⟨a, first, second, rfl, hp, hrest⟩

theorem traces_proceed {p : Program (Outcome α)} {events : List Event}
    {a : Except UpdateFailure α} (h : Traces (proceed p).run events a) :
    ∃ outcome, Traces p events outcome ∧ a = outcome.mapError .failed := by
  obtain ⟨outcome, first, second, rfl, hp, rfl, rfl⟩ := (traces_bind p _ _ _).mp h
  rw [List.append_nil]
  exact ⟨outcome, hp, rfl⟩

theorem traces_fetch {target : Ref} {events : List Event} {a : Except UpdateFailure Json}
    (h : Traces (fetch target).run events a) :
    (∃ report, events = [.call (.get target) (.error report)] ∧
        a = .error (.failed (.above (.transport (.get target)) report))) ∨
      ∃ object, events = [.call (.get target) (.ok object)] ∧
        a = .ok (withoutServerFields object) := by
  obtain ⟨outcome, htrace, rfl⟩ := traces_proceed h
  obtain ⟨found, rest, rfl, hrest⟩ := (traces_perform_bind _ _ _ _).mp htrace
  cases found with
  | error report =>
    obtain ⟨rfl, rfl⟩ := hrest
    exact .inl ⟨report, rfl, rfl⟩
  | ok object =>
    obtain ⟨rfl, rfl⟩ := hrest
    exact .inr ⟨object, rfl, rfl⟩

/-! ### Courses -/

theorem course_of_replace {target : Ref} {manifest : Json} {events : List Event}
    {a : Outcome Ref} (h : Traces (Apply.replace target manifest) events a) :
    ReplaceCourse target manifest events a := by
  unfold Apply.replace at h
  cases inPlace : target.kind.patchableInPlace with
  | true =>
    rw [if_pos inPlace] at h
    obtain ⟨updated, rest, rfl, hrest⟩ := (traces_perform_bind _ _ _ _).mp h
    cases updated with
    | error report =>
      obtain ⟨rfl, rfl⟩ := hrest
      exact .unpatched inPlace
    | ok updated =>
      obtain ⟨last, rfl, rfl, rfl⟩ := (traces_record_bind _ _ _ _ _).mp hrest
      exact .patched inPlace
  | false =>
    rw [if_neg (Bool.eq_false_iff.mp inPlace)] at h
    obtain ⟨deleted, first, second, rfl, hdelete, hrest⟩ := (traces_bind _ _ _ _).mp h
    obtain ⟨removed, rfl, ⟨settled, rfl⟩ | ⟨report, rfl, stuck, rfl⟩⟩ :=
      traces_deleteIfPresent hdelete
    · obtain ⟨rest, rfl, htail⟩ := (traces_record_bind _ _ _ _ _).mp hrest
      obtain ⟨created, third, fourth, rfl, hcreate, hend⟩ := (traces_bind _ _ _ _).mp htail
      obtain ⟨made, rfl, rfl⟩ | ⟨report, rfl, rfl⟩ := traces_createFrom hcreate
      · obtain ⟨last, rfl, rfl, rfl⟩ := (traces_record_bind _ _ _ _ _).mp hend
        exact .recreated inPlace settled
      · obtain ⟨rfl, rfl⟩ := hend
        exact .lost inPlace settled
    · obtain ⟨rfl, rfl⟩ := hrest
      exact .stuck inPlace stuck

theorem course_of_edit {edit : Edit} {events : List Event} {a : Except UpdateFailure Ref}
    (h : Traces edit.perform.run events a) : EditCourse edit events a := by
  obtain ⟨failure, hfetch, rfl⟩ | ⟨manifest, first, second, rfl, hfetch, hrest⟩ :=
    traces_attempt_bind h
  · obtain ⟨report, rfl, hfailure⟩ | ⟨object, -, hfailure⟩ := traces_fetch hfetch
    · cases hfailure
      exact .unread
    · cases hfailure
  · obtain ⟨report, -, hread⟩ | ⟨object, rfl, hread⟩ := traces_fetch hfetch
    · cases hread
    cases hread
    obtain ⟨failure, ⟨rfl, hrefused⟩, rfl⟩ | ⟨changed, third, fourth, rfl, ⟨rfl, hchanged⟩, hend⟩ :=
      traces_attempt_bind hrest
    · exact .unchanged hrefused.symm
    · obtain ⟨outcome, hreplace, rfl⟩ := traces_proceed hend
      exact .submitted hchanged.symm (course_of_replace hreplace)

theorem course_of_edits {edits : List Edit} {events : List Event}
    {a : Except UpdateFailure (List Ref)} (h : Traces (edits.mapM Edit.perform).run events a) :
    EditsCourse edits events a := by
  induction edits generalizing events a with
  | nil =>
    obtain ⟨rfl, rfl⟩ := h
    exact .nil
  | cons edit rest ih =>
    rw [List.mapM_cons] at h
    obtain ⟨failure, hedit, rfl⟩ | ⟨made, first, second, rfl, hedit, hrest⟩ :=
      traces_attempt_bind h
    · exact .failed (course_of_edit hedit)
    have course := course_of_edit hedit
    obtain ⟨failure, hothers, rfl⟩ | ⟨others, third, fourth, rfl, hothers, rfl, rfl⟩ :=
      traces_attempt_bind hrest
    · exact .cons course (ih hothers)
    · rw [List.append_nil]
      exact .cons course (ih hothers)

/-- Whatever answers its calls, an update takes one of the described courses. -/
theorem course_of_update {units : List Ref} {u : SessionUpdate} {events : List Event}
    {a : Except UpdateFailure (List Ref)} (h : Traces (u.run units) events a) :
    UpdateCourse units u events a := by
  unfold SessionUpdate.run at h
  split at h
  next empty =>
    obtain ⟨rfl, rfl⟩ := h
    exact .idle empty
  next =>
    split at h
    next report refused =>
      obtain ⟨rfl, rfl⟩ := h
      exact .refused refused
    next w settled =>
      rw [carryOut_eq_mapM] at h
      exact .carried settled (course_of_edits h)

end ClusterProvisioning.Proofs
