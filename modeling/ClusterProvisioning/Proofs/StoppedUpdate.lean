import ClusterProvisioning.Proofs.UpdateFrame

/-!
# Updates that stop on the way

A port is assigned to a key of whatever stands at its place. A value that is neither an object nor
null has no keys, and there the update stops, neither accepted nor refused. It stops at an
assignment exactly when it has read such an object, and then the edits before that one are made: the
pod stands recreated, and when it is the route that was read the service is patched
(`update_stops`). That a call of the update may itself stop, because node ports run out, is another
matter (`halt?_cases`).
-/

namespace ClusterProvisioning.Proofs
open Program MemoryCluster Plan SessionUpdate

variable {units : List Ref} {u : SessionUpdate} {edit : Edit} {target : Ref} {object : Json}
  {path : List String} {key sort : String} {events : List Event}

/-- No key of the value can be assigned. -/
def Keyless (place : Json) : Prop :=
  place.isObject = false ∧ place.isNull = false

/-- The place in an object, and the key there, that an update assigns its port to. -/
inductive PortSlot (units : List Ref) (u : SessionUpdate) : Ref → List String → String → Prop
  | service {service : Ref} {port : UInt16} (asked : u.servicePort = some port)
      (first : unitOf? units .service = some service) :
      PortSlot units u service ["spec", "ports", "0"] "port"
  | route {route : Ref} {port : UInt16} (asked : u.servicePort = some port)
      (first : unitOf? units .virtualService = some route) :
      PortSlot units u route (destinationPath ++ ["port"]) "number"

theorem PortSlot.kind (slot : PortSlot units u target path key) :
    target.kind = .service ∧ path = ["spec", "ports", "0"] ∧ key = "port" ∨
      target.kind = .virtualService ∧ path = destinationPath ++ ["port"] ∧ key = "number" := by
  cases slot with
  | service asked first => exact .inl ⟨unitOf?_kind first, rfl, rfl⟩
  | route asked first => exact .inr ⟨unitOf?_kind first, rfl, rfl⟩

/-! ### One edit -/

theorem assignAt_error {value manifest : Json} {failure : UpdateFailure} :
    assignAt path key value manifest = .error failure ↔
      ∃ place, manifest.at? path = some place ∧ Keyless place ∧
        failure = .unassignable key place.sort := by
  unfold assignAt
  cases manifest.at? path with
  | none => simp
  | some place =>
    simp only [Option.some.injEq, exists_eq_left']
    cases place with
    | object members | null =>
      constructor
      · intro h
        cases h
      · rintro ⟨⟨_, _⟩, -⟩
        contradiction
    | bool | number | string | array =>
      constructor
      · rintro ⟨⟩
        exact ⟨⟨rfl, rfl⟩, rfl⟩
      · rintro ⟨-, rfl⟩
        rfl

theorem assignAt_stops {rest : List String} {assigned : String} {value : Json} :
    assignAt ("spec" :: rest) assigned value (withoutServerFields object) =
        .error (.unassignable key sort) ↔
      key = assigned ∧ ∃ place, object.at? ("spec" :: rest) = some place ∧ Keyless place ∧
        place.sort = sort := by
  rw [assignAt_error, spec_withoutServerFields]
  constructor
  · rintro ⟨place, present, keyless, h⟩
    cases h
    exact ⟨rfl, place, present, keyless, rfl⟩
  · rintro ⟨rfl, place, present, keyless, rfl⟩
    exact ⟨place, present, keyless, rfl⟩

/-- A change stops where the object that was read has a value without keys. -/
theorem change_stops (asked : Asked units u edit) :
    edit.change (withoutServerFields object) = .error (.unassignable key sort) ↔
      ∃ path place, PortSlot units u edit.target path key ∧ object.at? path = some place ∧
        Keyless place ∧ place.sort = sort := by
  cases asked with
  | @pod pod changes touches first checked =>
    constructor
    · intro h
      cases hset : setResources changes u.gpu (withoutServerFields object) <;>
        simp [podEdit, hset, Except.mapError] at h
    · rintro ⟨path, place, slot, -⟩
      have kind : (podEdit pod changes u.gpu).target.kind = .pod := unitOf?_kind first
      rcases slot.kind with ⟨other, -⟩ | ⟨other, -⟩
      · exact absurd (kind.symm.trans other) (by decide)
      · exact absurd (kind.symm.trans other) (by decide)
  | @service service port asked first =>
    refine assignAt_stops.trans ⟨?_, ?_⟩
    · rintro ⟨rfl, place, found⟩
      exact ⟨_, place, .service asked first, found⟩
    · rintro ⟨path, place, slot, found⟩
      rcases slot.kind with ⟨-, rfl, rfl⟩ | ⟨other, -⟩
      · exact ⟨rfl, place, found⟩
      · exact absurd ((unitOf?_kind first).symm.trans other) (by decide)
  | @route route port asked first =>
    refine assignAt_stops.trans ⟨?_, ?_⟩
    · rintro ⟨rfl, place, found⟩
      exact ⟨_, place, .route asked first, found⟩
    · rintro ⟨path, place, slot, found⟩
      rcases slot.kind with ⟨other, -⟩ | ⟨-, rfl, rfl⟩
      · exact absurd ((unitOf?_kind first).symm.trans other) (by decide)
      · exact ⟨rfl, place, found⟩

/-! ### The edit that stops -/

/-- An edit that stops read its target and went no further. -/
theorem editCourse_stops (course : EditCourse edit events (.error (.unassignable key sort))) :
    ∃ object, events = [.call (.get edit.target) (.ok object)] ∧
      edit.change (withoutServerFields object) = .error (.unassignable key sort) := by
  generalize hanswer : (Except.error (.unassignable key sort) : Except UpdateFailure Ref) = answer
    at course
  cases course with
  | unread => cases hanswer
  | @unchanged object failure refused =>
    cases hanswer
    exact ⟨object, rfl, refused⟩
  | @submitted object manifest rest outcome changed replaced => cases outcome <;> cases hanswer

/-- An edit ends with what it has read if and only if its change fails. -/
theorem editCourse_read {answer : Except UpdateFailure Ref} (course : EditCourse edit events answer)
    (last : events.getLast? = some (.call (.get target) (.ok object))) :
    edit.target = target ∧ ∃ failure, edit.change (withoutServerFields object) = .error failure ∧
      answer = .error failure := by
  cases course with
  | unread => cases last
  | @unchanged found failure refused =>
    cases last
    exact ⟨rfl, failure, refused, rfl⟩
  | submitted changed replaced => cases replaced <;> cases last

theorem editsCourse_read {edits : List Edit} {answer : Except UpdateFailure (List Ref)}
    (course : EditsCourse edits events answer)
    (last : events.getLast? = some (.call (.get target) (.ok object))) :
    ∃ edit ∈ edits, edit.target = target ∧
      ∃ failure, edit.change (withoutServerFields object) = .error failure ∧
        answer = .error failure := by
  induction course with
  | nil => cases last
  | failed course =>
    obtain ⟨rfl, failure, refused, hanswer⟩ := editCourse_read course last
    cases hanswer
    exact ⟨_, List.mem_cons_self, rfl, _, refused, rfl⟩
  | @cons edit rest first second made answer course others ih =>
    rw [List.getLast?_append] at last
    cases hsecond : second.getLast? with
    | none =>
      rw [hsecond] at last
      obtain ⟨-, failure, -, hanswer⟩ := editCourse_read course last
      cases hanswer
    | some event =>
      rw [hsecond] at last
      obtain ⟨edit, hedit, htarget, failure, refused, rfl⟩ := ih (hsecond.trans last)
      exact ⟨edit, List.mem_cons_of_mem _ hedit, htarget, failure, refused, rfl⟩

/-- Edits that end early were made up to the one that fails. -/
theorem editsCourse_split {edits : List Edit} {failure : UpdateFailure}
    (course : EditsCourse edits events (.error failure)) :
    ∃ done edit rest made first last, edits = done ++ edit :: rest ∧ events = first ++ last ∧
      EditsCourse done first (.ok made) ∧ EditCourse edit last (.error failure) := by
  generalize hanswer : (Except.error failure : Except UpdateFailure (List Ref)) = answer at course
  induction course with
  | nil => cases hanswer
  | @failed edit rest events failure course =>
    cases hanswer
    exact ⟨[], edit, rest, [], [], events, rfl, rfl, .nil, course⟩
  | @cons edit rest first second made answer course others ih =>
    cases answer with
    | ok replaced => cases hanswer
    | error other =>
      cases hanswer
      obtain ⟨done, failing, later, replaced, third, last, rfl, rfl, before, fails⟩ := ih rfl
      refine ⟨edit :: done, failing, later, made :: replaced, first ++ third, last, rfl, ?_, ?_,
        fails⟩
      · rw [List.append_assoc]
      · exact .cons course before

/-! ### Updates -/

/-- The turn of an object in an update: first the pod, then the service, last the route. -/
def turn (kind : Kind) : Nat :=
  if kind = .pod then 0 else if kind = .service then 1 else 2

theorem edits_ordered {w : Work} (settled : work units u = .ok w) :
    (edits units u.gpu w).Pairwise fun edit later =>
      turn edit.target.kind < turn later.target.kind := by
  obtain ⟨hpod, hservice⟩ := work_kinds settled
  have hroute : ∀ route, unitOf? units .virtualService = some route →
      route.kind = .virtualService := fun route => unitOf?_kind
  obtain ⟨pod, service⟩ := w
  rcases pod with _ | ⟨pod, changes⟩ <;> rcases service with _ | ⟨service, port⟩ <;>
    rcases hunit : unitOf? units .virtualService with _ | route <;>
    simp_all [edits, podEdit, serviceEdit, routeEdit, turn, Kind.pod, Kind.service,
      Kind.virtualService]

/-- An update stopped at an object that has a value without keys at the place of the port. -/
structure StoppedBy (units : List Ref) (u : SessionUpdate) (c c' : MemoryCluster)
    (events : List Event) (target : Ref) (path : List String) (key sort : String) : Prop where
  slot : PortSlot units u target path key
  keyless : ∃ object place, c.object? target = some object ∧ object.at? path = some place ∧
    Keyless place ∧ place.sort = sort ∧
    events.getLast? = some (.call (.get target) (.ok object))
  /-- What is asked of objects whose turn is before is done. -/
  done : ∀ edit, Asked units u edit → turn edit.target.kind < turn target.kind →
    ∃ made, Made c c' edit made
  /-- No object whose turn is not before is changed. -/
  kept : ∀ other : Ref, turn target.kind ≤ turn other.kind → c'.object? other = c.object? other

variable {c c' : MemoryCluster} {answer : Except UpdateFailure (List Ref)}

theorem Made.congr {d : MemoryCluster} {made : Ref} (edited : Made c d edit made)
    (same : ∀ other, c'.object? other = d.object? other) : Made c c' edit made := by
  obtain ⟨stored, manifest, object, replaces⟩ := edited
  exact ⟨stored, manifest, object,
    { replaces with objects := fun other kind => (same other).trans (replaces.objects other kind) }⟩

theorem stoppedBy_of_edits {w : Work} (settled : work units u = .ok w)
    (course : EditsCourse (edits units u.gpu w) events (.error (.unassignable key sort)))
    (served : Serves gateway c events c') :
    ∃ target path, StoppedBy units u c c' events target path key sort := by
  obtain ⟨before, edit, rest, replaced, first, last, hsplit, rfl, made, stops⟩ :=
    editsCourse_split course
  obtain ⟨object, rfl, refused⟩ := editCourse_stops stops
  obtain ⟨d, hfirst, e, hget, rfl⟩ := (serves_append _ _ _ _ _).mp served
  obtain ⟨present, hobjects⟩ := get_found hget
  have same : ∀ other, c'.object? other = d.object? other := fun other =>
    congrArg (Assoc.get? · other) hobjects
  have hmem : ∀ other, Asked units u other ↔ other ∈ before ++ edit :: rest := fun other =>
    hsplit ▸ (mem_edits_iff settled).symm
  obtain ⟨path, place, slot, found⟩ := (change_stops ((hmem edit).mpr (by simp))).mp refused
  -- What was edited before has another kind than everything whose turn is not before.
  have apart := edits_apart settled
  have ordered := edits_ordered settled
  rw [hsplit] at apart ordered
  obtain ⟨-, hrest, hbefore⟩ := List.pairwise_append.mp ordered
  have frame : ∀ other : Ref, turn edit.target.kind ≤ turn other.kind →
      d.object? other = c.object? other := by
    intro other hturn
    refine editsCourse_frame made hfirst fun early hearly heq => ?_
    have hlt := hbefore early hearly edit List.mem_cons_self
    rw [heq] at hturn
    omega
  refine ⟨edit.target, path, slot, ?_, fun other asked hlt => ?_, fun other hturn => ?_⟩
  · obtain ⟨hplace, keyless, hsort⟩ := found
    exact ⟨object, place, (frame _ (Nat.le_refl _)).symm.trans present, hplace, keyless, hsort,
      List.getLast?_concat⟩
  · rcases List.mem_append.mp ((hmem other).mp asked) with hearly | hlate
    · have all := editsCourse_made made (List.pairwise_append.mp apart).1 hfirst fun _ _ _ _ => rfl
      obtain ⟨made, -, edited⟩ := made_of_mem all hearly
      exact ⟨made, edited.congr same⟩
    · rcases List.mem_cons.mp hlate with rfl | hlate
      · exact absurd hlt (Nat.lt_irrefl _)
      · have := (List.pairwise_cons.mp hrest).1 other hlate
        omega
  · exact (same other).trans (frame other hturn)

theorem stopped_of_stoppedBy (course : UpdateCourse units u events answer)
    (stopped : StoppedBy units u c c' events target path key sort) :
    answer = .error (.unassignable key sort) := by
  obtain ⟨object, place, -, hplace, keyless, hsort, last⟩ := stopped.keyless
  cases course with
  | idle empty => cases last
  | refused refused => cases last
  | carried settled course =>
    obtain ⟨edit, hedit, rfl, failure, refused, rfl⟩ := editsCourse_read course last
    have stops := (change_stops ((mem_edits_iff settled).mp hedit)).mpr
      ⟨path, place, stopped.slot, hplace, keyless, hsort⟩
    cases refused.symm.trans stops
    rfl

/-- An update whose calls are all answered stops at the assignment of a port exactly when it has
read an object that has a value without keys at the place of the port; whatever faults are armed,
the edits before that one are made then, and nothing else is. -/
theorem update_stops (units : List Ref) (u : SessionUpdate) (c c' : MemoryCluster)
    (answer : Except UpdateFailure (List Ref)) (events : List Event) (key sort : String)
    (run : (u.run units).run gateway c = (answer, c', events)) :
    answer = .error (.unassignable key sort) ↔
      ∃ target path, StoppedBy units u c c' events target path key sort := by
  obtain ⟨course, served⟩ := course_of_run run
  constructor
  · rintro rfl
    obtain ⟨w, settled⟩ : ∃ w, work units u = .ok w := by
      cases course with
      | carried settled => exact ⟨_, settled⟩
    exact stoppedBy_of_edits settled (edits_of_settled settled course) served
  · rintro ⟨target, path, stopped⟩
    exact stopped_of_stoppedBy course stopped

theorem update_stops_lab :
    let c := labCluster (.object []) [number16 80]
    ∃ c' events,
      (labUpdate.run labUnits).run gateway c = (.error (.unassignable "port" "number"), c', events) ∧
      ∃ target path, StoppedBy labUnits labUpdate c c' events target path "port" "number" := by
  intro c
  exact ⟨_, _, rfl, (update_stops labUnits labUpdate c _ _ _ "port" "number" rfl).mp rfl⟩

/-- An update of a service whose first port is a number: the pod was recreated with its new
resources when the update stopped. -/
theorem pod_recreated_and_stopped :
    let c := labCluster (.object []) [number16 80]
    ∃ c' events pod,
      (labUpdate.run labUnits).run gateway c = (.error (.unassignable "port" "number"), c', events) ∧
      Unarmed c ∧ c'.object? ⟨.pod, "lab", "ada"⟩ = some pod ∧
      pod.at? (limitsPath ++ [gpuResource]) = some (.string "1") ∧
      c'.object? ⟨.service, "lab", "ada"⟩ = c.object? ⟨.service, "lab", "ada"⟩ := by
  intro c
  exact ⟨_, _, _, rfl, rfl, rfl, rfl, rfl⟩

end ClusterProvisioning.Proofs
