import ClusterProvisioning.Proofs.ProvisionCourse
import ClusterProvisioning.Proofs.SessionShape
import ClusterProvisioning.Proofs.UpdateWork

/-!
# The life of a session

A session on a cluster without faults keeps its three objects, wired to one another, through any
sequence of updates, resets and status writes; no other object changes, and a teardown removes it
(`session_life`). `Stands` is the invariant: it holds once the session is created, and every action
keeps it. Between the two edits of a port update the service and the route disagree, so it names the
two ports apart.
-/

namespace ClusterProvisioning.Proofs
open Program MemoryCluster Plan SessionUpdate

/-- The objects of the session stand on the cluster, the service at one port and the route to
another, and all other objects are as on the cluster that the session began on. -/
structure Stands (s : SessionParts) (base : MemoryCluster) (served routed : Json)
    (c : MemoryCluster) : Prop where
  unarmed : Unarmed c
  pod : ∃ object, c.object? s.pod = some object ∧ PodShape s object
  service : ∃ object, c.object? s.service = some object ∧ ServiceShape s served object
  route : ∃ object, c.object? s.route = some object ∧ RouteShape s routed object
  frame : ∀ other, other ∉ s.units → c.object? other = base.object? other

/-! ### Actions -/

/-- What can happen to a session: an update, a reset, or a controller that writes the status of one
of its objects. -/
inductive SessionAction where
  | update (changes : SessionUpdate)
  | reset (fresh : String)
  | setStatus (target : Ref) (status : Json)

/-- What an action answers. -/
inductive SessionAnswer where
  | updated (answer : Except UpdateFailure (List Ref))
  | reset (answer : Outcome ApplyResult)
  | written (done : Bool)

/-- Controllers write the status of objects of the session only. -/
def SessionAction.Within (units : List Ref) : SessionAction → Prop
  | .update _ | .reset _ => True
  | .setStatus target _ => target ∈ units

/-- Carries out an action on a session recorded as some units. -/
def SessionAction.perform (config : Config) (request : WorkloadRequest) (units : List Ref) :
    SessionAction → MemoryCluster → SessionAnswer × MemoryCluster
  | .update changes, c =>
    let (answer, c, _) := (changes.run units).run gateway c
    (.updated answer, c)
  | .reset fresh, c =>
    let (answer, c, _) := (Lifecycle.reset config request units fresh).run gateway c
    (.reset answer, c)
  | .setStatus target status, c =>
    match c.setStatus target status with
    | some c => (.written true, c)
    | none => (.written false, c)

/-- Carries out actions in order. -/
def performAll (config : Config) (request : WorkloadRequest) (units : List Ref) :
    List SessionAction → MemoryCluster → List SessionAnswer × MemoryCluster
  | [], c => ([], c)
  | action :: rest, c =>
    let (answer, c) := action.perform config request units c
    let (answers, c) := performAll config request units rest c
    (answer :: answers, c)

/-- The answer of an action on a session: an update replaces units of the session or is refused
before any call, a reset gives all units back with the address, and a status is written. -/
def Sound (units : List Ref) (url : String) : SessionAction → SessionAnswer → Prop
  | .update _, .updated (.ok replaced) => replaced ⊆ units
  | .update changes, .updated (.error failure) =>
    ∃ report, failure = .failed report ∧ work units changes = .error report
  | .reset _, .reset answer => answer = .ok ⟨units, some url, none⟩
  | .setStatus .., .written written => written = true
  | _, _ => False

/-- Tearing the units down succeeds, and then each of them is gone and has the status of a deleted
object. -/
def Ends (units : List Ref) (c : MemoryCluster) : Prop :=
  let (answer, c', _) := (Apply.teardown units).run gateway c
  answer = .ok () ∧ ∀ target ∈ units, c'.object? target = none ∧
    ∀ registry, ((Lifecycle.status registry target).run gateway c').1 = .ok .deleted

/-! ### Single objects -/

section Objects

variable {s : SessionParts} {base c c' : MemoryCluster} {served routed object : Json}

theorem ref_ne_of_kind {first second : Ref} {k l : Kind} (hfirst : first.kind = k)
    (hsecond : second.kind = l) (h : k ≠ l) : first ≠ second := by
  rintro rfl
  exact h (hfirst.symm.trans hsecond)

theorem SessionParts.service_ne_pod (s : SessionParts) : s.service ≠ s.pod :=
  ref_ne_of_kind s.service_kind s.pod_kind (by decide)

theorem SessionParts.route_ne_pod (s : SessionParts) : s.route ≠ s.pod :=
  ref_ne_of_kind s.route_kind s.pod_kind (by decide)

theorem SessionParts.route_ne_service (s : SessionParts) : s.route ≠ s.service :=
  ref_ne_of_kind s.route_kind s.service_kind (by decide)

theorem PutAt.outside {units : List Ref} {target other : Ref} (put : PutAt c target object c')
    (inside : target ∈ units) (outside : other ∉ units) :
    c'.object? other = c.object? other :=
  put.other fun h => outside (h.symm ▸ inside)

theorem Stands.put_pod (stands : Stands s base served routed c) (unarmed : Unarmed c')
    (put : PutAt c s.pod object c') (shape : PodShape s object) :
    Stands s base served routed c' where
  unarmed := unarmed
  pod := ⟨object, put.self, shape⟩
  service := by
    rw [put.other s.service_ne_pod]
    exact stands.service
  route := by
    rw [put.other s.route_ne_pod]
    exact stands.route
  frame := fun other outside =>
    (put.outside (by simp [SessionParts.units]) outside).trans (stands.frame other outside)

theorem Stands.put_service {port : Json} (stands : Stands s base served routed c)
    (unarmed : Unarmed c') (put : PutAt c s.service object c')
    (shape : ServiceShape s port object) : Stands s base port routed c' where
  unarmed := unarmed
  pod := by
    rw [put.other s.service_ne_pod.symm]
    exact stands.pod
  service := ⟨object, put.self, shape⟩
  route := by
    rw [put.other s.route_ne_service]
    exact stands.route
  frame := fun other outside =>
    (put.outside (by simp [SessionParts.units]) outside).trans (stands.frame other outside)

theorem Stands.put_route {port : Json} (stands : Stands s base served routed c)
    (unarmed : Unarmed c') (put : PutAt c s.route object c') (shape : RouteShape s port object) :
    Stands s base served port c' where
  unarmed := unarmed
  pod := by
    rw [put.other s.route_ne_pod.symm]
    exact stands.pod
  service := by
    rw [put.other s.route_ne_service.symm]
    exact stands.service
  route := ⟨object, put.self, shape⟩
  frame := fun other outside =>
    (put.outside (by simp [SessionParts.units]) outside).trans (stands.frame other outside)

end Objects

/-! ### Updates -/

section Updates

variable {s : SessionParts} {base c c' : MemoryCluster} {served routed : Json}
  {events : List Event}

/-- An edit that is possible on all objects of one shape, and makes another shape of it, puts an
object of the other shape in the place of its target. Both shapes are kept by what a cluster
does to objects that it stores. -/
theorem edited_shape {edit : Edit} {before after : Json → Prop}
    {answer : Except UpdateFailure Ref} (unarmed : Unarmed c)
    (present : ∃ object, c.object? edit.target = some object ∧ before object)
    (kept : ∀ {manifest object}, before manifest → Retains manifest object → before object)
    (possible : ∀ {manifest}, before manifest →
      ∃ changed, edit.change manifest = .ok changed ∧ after changed)
    (keptAfter : ∀ {manifest object}, after manifest → Retains manifest object → after object)
    (named : ∀ {manifest}, after manifest → Manifest.name? manifest = some edit.target.name)
    (course : EditCourse edit events answer) (run : Serves gateway c events c') :
    answer = .ok edit.target ∧ ∃ object, PutAt c edit.target object c' ∧ after object := by
  obtain ⟨stored, hstored, hbefore⟩ := present
  obtain ⟨changed, hchanged, hafter⟩ := possible (kept hbefore (retains_withoutServerFields stored))
  obtain ⟨hanswer, object, submitted, put⟩ :=
    editCourse_unarmed unarmed hstored hchanged (fun _ => named hafter) course run
  have retains : Retains changed object :=
    (retains_resubmitted edit.target stored changed).trans (retains_of_stored submitted)
  exact ⟨hanswer, object, put, keptAfter hafter retains⟩

theorem Stands.edit_pod {changes : Table Json} {gpu : Option UInt64}
    {answer : Except UpdateFailure Ref} (stands : Stands s base served routed c)
    (course : EditCourse (podEdit s.pod changes gpu) events answer)
    (run : Serves gateway c events c') :
    answer = .ok s.pod ∧ Stands s base served routed c' := by
  obtain ⟨hanswer, object, put, shape⟩ := edited_shape stands.unarmed stands.pod
    PodShape.retained (podEdit_shape · changes gpu) PodShape.retained PodShape.named course run
  exact ⟨hanswer, stands.put_pod (serves_unarmed stands.unarmed run) put shape⟩

theorem Stands.edit_service {port : UInt16} {answer : Except UpdateFailure Ref}
    (stands : Stands s base served routed c)
    (course : EditCourse (serviceEdit s.service port) events answer)
    (run : Serves gateway c events c') :
    answer = .ok s.service ∧ Stands s base (number16 port) routed c' := by
  obtain ⟨hanswer, object, put, shape⟩ := edited_shape stands.unarmed stands.service
    ServiceShape.retained (serviceEdit_shape · port) ServiceShape.retained ServiceShape.named
    course run
  exact ⟨hanswer, stands.put_service (serves_unarmed stands.unarmed run) put shape⟩

theorem Stands.edit_route {port : UInt16} {answer : Except UpdateFailure Ref}
    (stands : Stands s base served routed c)
    (course : EditCourse (routeEdit s.route port) events answer)
    (run : Serves gateway c events c') :
    answer = .ok s.route ∧ Stands s base served (number16 port) c' := by
  obtain ⟨hanswer, object, put, shape⟩ := edited_shape stands.unarmed stands.route
    RouteShape.retained (routeEdit_shape · port) RouteShape.retained RouteShape.named course run
  exact ⟨hanswer, stands.put_route (serves_unarmed stands.unarmed run) put shape⟩

/-- When the first of some edits cannot fail, the others follow. -/
theorem editsCourse_first {edit : Edit} {rest : List Edit}
    {answer : Except UpdateFailure (List Ref)} {kept : MemoryCluster → Prop}
    (course : EditsCourse (edit :: rest) events answer) (run : Serves gateway c events c')
    (first : ∀ events answer d, EditCourse edit events answer → Serves gateway c events d →
      answer = .ok edit.target ∧ kept d) :
    ∃ d second others, kept d ∧ EditsCourse rest second others ∧ Serves gateway d second c' ∧
      answer = others.map (edit.target :: ·) := by
  cases course with
  | failed failed =>
    obtain ⟨hanswer, -⟩ := first _ _ _ failed run
    cases hanswer
  | cons made others =>
    obtain ⟨d, hfirst, hsecond⟩ := (serves_append _ _ _ _ _).mp run
    obtain ⟨hanswer, hkept⟩ := first _ _ _ made hfirst
    cases hanswer
    exact ⟨d, _, _, hkept, others, hsecond, rfl⟩

/-- A new port goes to the service and to the route, which agree on it afterwards. -/
theorem Stands.edit_ports {port : UInt16} {answer : Except UpdateFailure (List Ref)}
    (stands : Stands s base served routed c)
    (course : EditsCourse [serviceEdit s.service port, routeEdit s.route port] events answer)
    (run : Serves gateway c events c') :
    answer = .ok [s.service, s.route] ∧ Stands s base (number16 port) (number16 port) c' := by
  obtain ⟨d, second, others, hd, hrest, hsecond, rfl⟩ :=
    editsCourse_first course run fun _ _ _ edited run => stands.edit_service edited run
  obtain ⟨e, third, others, he, hlast, hthird, rfl⟩ :=
    editsCourse_first hrest hsecond fun _ _ _ edited run => hd.edit_route edited run
  cases hlast
  obtain rfl := hthird
  exact ⟨rfl, he⟩

theorem unitOf?_pod (s : SessionParts) : unitOf? s.units .pod = some s.pod := by
  simp [unitOf?, SessionParts.units, s.pod_kind]

theorem unitOf?_service (s : SessionParts) : unitOf? s.units .service = some s.service := by
  simp [unitOf?, SessionParts.units, s.pod_kind, s.service_kind, Kind.pod, Kind.service]

theorem unitOf?_route (s : SessionParts) : unitOf? s.units .virtualService = some s.route := by
  simp [unitOf?, SessionParts.units, s.pod_kind, s.service_kind, s.route_kind, Kind.pod,
    Kind.service, Kind.virtualService]

/-- What an update of a session asks for, it asks for of its own pod and its own service. -/
theorem work_session {u : SessionUpdate} {w : Work} (settled : work s.units u = .ok w) :
    (w.pod = none ∨ ∃ changes, w.pod = some (s.pod, changes)) ∧
      (w.service = none ∨ ∃ port, w.service = some (s.service, port)) := by
  constructor
  · rcases work_pod settled with ⟨-, none⟩ | ⟨pod, changes, -, first, -, hpod⟩
    · exact .inl none
    · cases first.symm.trans (unitOf?_pod s)
      exact .inr ⟨changes, hpod⟩
  · rcases work_service settled with ⟨-, none⟩ | ⟨service, port, -, -, first, hservice⟩
    · exact .inl none
    · cases first.symm.trans (unitOf?_service s)
      exact .inr ⟨port, hservice⟩

theorem Stands.all_edited {port : Json} {gpu : Option UInt64} {w : Work}
    {answer : Except UpdateFailure (List Ref)} (stands : Stands s base port port c)
    (pod : w.pod = none ∨ ∃ changes, w.pod = some (s.pod, changes))
    (service : w.service = none ∨ ∃ port, w.service = some (s.service, port))
    (course : EditsCourse (edits s.units gpu w) events answer)
    (run : Serves gateway c events c') :
    ∃ replaced port', answer = .ok replaced ∧ replaced ⊆ s.units ∧
      Stands s base port' port' c' := by
  obtain ⟨podWork, serviceWork⟩ := w
  -- The part of the edits that concerns the port, from any state in which the session stands.
  have ports : ∀ {d second others}, Stands s base port port d →
      EditsCourse (edits s.units gpu ⟨none, serviceWork⟩) second others →
      Serves gateway d second c' →
      ∃ replaced port', others = .ok replaced ∧ replaced ⊆ s.units ∧
        Stands s base port' port' c' := by
    intro d second others hd course run
    rcases service with rfl | ⟨new, rfl⟩
    · cases course
      obtain rfl := run
      exact ⟨[], port, rfl, List.nil_subset _, hd⟩
    · simp only [edits, unitOf?_route] at course
      obtain ⟨rfl, hstands⟩ := hd.edit_ports course run
      exact ⟨_, _, rfl, List.subset_cons_self _ _, hstands⟩
  rcases pod with rfl | ⟨changes, rfl⟩
  · exact ports stands course run
  · obtain ⟨d, second, others, hd, hrest, hsecond, rfl⟩ :=
      editsCourse_first course run fun _ _ _ edited run => stands.edit_pod edited run
    obtain ⟨replaced, port', rfl, hsubset, hstands⟩ := ports hd hrest hsecond
    refine ⟨s.pod :: replaced, port', rfl, ?_, hstands⟩
    exact List.cons_subset.mpr ⟨List.mem_cons_self, hsubset⟩

/-- An update keeps a session standing, with service and route at one port. -/
theorem Stands.updated {port : Json} {u : SessionUpdate}
    {answer : Except UpdateFailure (List Ref)} (stands : Stands s base port port c)
    (course : UpdateCourse s.units u events answer) (run : Serves gateway c events c')
    (url : String) :
    Sound s.units url (.update u) (.updated answer) ∧ ∃ port', Stands s base port' port' c' := by
  cases course with
  | idle empty =>
    obtain rfl := run
    exact ⟨List.nil_subset _, port, stands⟩
  | @refused report refused =>
    obtain rfl := run
    exact ⟨⟨report, rfl, refused⟩, port, stands⟩
  | carried settled course =>
    obtain ⟨pod, service⟩ := work_session settled
    obtain ⟨replaced, port', rfl, hsubset, hstands⟩ := stands.all_edited pod service course run
    exact ⟨hsubset, port', hstands⟩

end Updates

/-! ### Resets and status writes -/

section Resets

variable {s : SessionParts} {base c c' : MemoryCluster} {events : List Event} {plan : Plan}

/-- What a cluster stores of a unit has the shape of its manifest, if it is one that storing
keeps. -/
theorem created_shape {us : List PlanUnit} {target : Ref} {shape : Json → Prop}
    (created : UnitsCreated us events) (form : PlanForm us) (run : Serves gateway c events c')
    (unit : ∃ u ∈ us, u.ref = target ∧ shape u.manifest)
    (kept : ∀ {manifest object}, shape manifest → Retains manifest object → shape object) :
    ∃ object, c'.object? target = some object ∧ shape object := by
  obtain ⟨u, hu, rfl, hshape⟩ := unit
  obtain ⟨object, stored, hobject⟩ := unitsCreated_objects created form run u hu
  have retains : Retains u.manifest object :=
    (retains_placedIn u.ns u.manifest).trans (retains_of_stored stored)
  exact ⟨object, hobject, kept hshape retains⟩

/-- A session stands once its units are created. -/
theorem stands_created (session : SessionOf plan s) (created : UnitsCreated plan.units events)
    (unarmed : Unarmed c) (run : Serves gateway c events c')
    (frame : ∀ other, other ∉ s.units → c.object? other = base.object? other) :
    Stands s base s.port s.port c' where
  unarmed := serves_unarmed unarmed run
  pod := created_shape created session.form run session.pod PodShape.retained
  service := created_shape created session.form run session.service ServiceShape.retained
  route := created_shape created session.form run session.route RouteShape.retained
  frame := fun other outside => by
    have confined := unitsCreated_confined created session.form
    rw [confined_frame_outside confined run (session.refs ▸ outside)]
    exact frame other outside

/-- A session is created as a whole and reported with its address. -/
theorem applyPlan_unarmed {url : String} {result : ApplyResult} (unarmed : Unarmed c)
    (form : PlanForm plan.units) (access : plan.access = some (.url url))
    (traced : Traces (Lifecycle.applyPlan plan .never) events result)
    (run : Serves gateway c events c') :
    UnitsCreated plan.units events ∧ result = ⟨plan.units.map PlanUnit.ref, some url, none⟩ := by
  obtain ⟨base, course, rfl⟩ := traces_applyPlan_url access traced
  obtain ⟨created, rfl⟩ := units_unarmed unarmed form course run
  exact ⟨created, rfl⟩

/-- A reset gives the session back under the same names and with the same address. -/
theorem Stands.reset {config : Config} {request : WorkloadRequest} {fresh suffix url : String}
    {served routed : Json} {answer : Outcome ApplyResult}
    (stands : Stands s base served routed c) (session : SessionOf plan s)
    (access : plan.access = some (.url url))
    (built : Plan.build config request suffix = .ok plan)
    (recorded : resetSuffix request s.units fresh = suffix)
    (course : ResetCourse config request s.units fresh events answer)
    (run : Serves gateway c events c') :
    answer = .ok ⟨s.units, some url, none⟩ ∧ Stands s base s.port s.port c' := by
  rw [← recorded] at built
  cases course with
  | unbuilt unbuilt => cases built.symm.trans unbuilt
  | stuck rebuilt swept =>
    obtain ⟨hanswer, -⟩ := teardown_unarmed stands.unarmed swept run
    cases hanswer
  | applied rebuilt swept carried =>
    cases built.symm.trans rebuilt
    obtain ⟨d, hsweep, happly⟩ := (serves_append _ _ _ _ _).mp run
    obtain ⟨-, hd, -, hothers⟩ := teardown_unarmed stands.unarmed swept hsweep
    obtain ⟨created, rfl⟩ := applyPlan_unarmed hd session.form access carried happly
    refine ⟨by rw [session.refs], stands_created session created hd happly fun other outside => ?_⟩
    exact (hothers other outside).trans (stands.frame other outside)

/-- A status can be written to an object that is specified, and leaves its shape. -/
theorem written_shape {target : Ref} {shape : Json → Prop} (status : Json) (unarmed : Unarmed c)
    (present : ∃ object, c.object? target = some object ∧ shape object)
    (specified : ∀ {object}, shape object → ∃ path below, object.at? ("spec" :: path) = some below)
    (kept : ∀ {manifest object}, shape manifest → Retains manifest object → shape object) :
    ∃ c', c.setStatus target status = some c' ∧ Unarmed c' ∧
      ∃ object, PutAt c target object c' ∧ shape object := by
  obtain ⟨stored, hstored, hshape⟩ := present
  obtain ⟨path, below, place⟩ := specified hshape
  obtain ⟨_, hstep, -⟩ := step_of_at? place
  obtain ⟨members, rfl, -⟩ := object_of_step (by decide) hstep
  let object := (Json.object members).withMember "status" status
  refine ⟨{ c with objects := c.objects.put target object }, ?_, unarmed, object, ?_, ?_⟩
  · rw [MemoryCluster.setStatus, hstored]
    rfl
  · intro other
    by_cases h : other = target
    · rw [if_pos h, h]
      exact Assoc.get?_put_self _ _ _
    · rw [if_neg h]
      exact Assoc.get?_put_of_ne _ _ (Ne.symm h)
  · exact kept hshape (retains_withStatus _ _)

/-- A controller that writes a status leaves the session as it stands. -/
theorem Stands.written {served routed : Json} {target : Ref}
    (stands : Stands s base served routed c) (inside : target ∈ s.units) (status : Json) :
    ∃ c', c.setStatus target status = some c' ∧ Stands s base served routed c' := by
  simp only [SessionParts.units, List.mem_cons, List.not_mem_nil, or_false] at inside
  rcases inside with rfl | rfl | rfl
  · obtain ⟨c', hwrite, unarmed, object, put, shape⟩ := written_shape status stands.unarmed
      stands.pod (fun shape => ⟨_, _, shape.port⟩) PodShape.retained
    exact ⟨c', hwrite, stands.put_pod unarmed put shape⟩
  · obtain ⟨c', hwrite, unarmed, object, put, shape⟩ := written_shape status stands.unarmed
      stands.service (fun shape => ⟨_, _, shape.port⟩) ServiceShape.retained
    exact ⟨c', hwrite, stands.put_service unarmed put shape⟩
  · obtain ⟨c', hwrite, unarmed, object, put, shape⟩ := written_shape status stands.unarmed
      stands.route (fun shape => ⟨_, _, shape.port⟩) RouteShape.retained
    exact ⟨c', hwrite, stands.put_route unarmed put shape⟩

end Resets

/-! ### Whole lives -/

section Runs

variable {config : Config} {request : WorkloadRequest} {suffix url : String} {plan : Plan}
  {s : SessionParts} {base c : MemoryCluster}

/-- What makes a session the one of a request: its plan, and how a reset finds that plan again. -/
def Recorded (config : Config) (request : WorkloadRequest) (s : SessionParts)
    (url : String) : Prop :=
  ∃ plan suffix, Plan.build config request suffix = .ok plan ∧ SessionOf plan s ∧
    plan.access = some (.url url) ∧ ∀ fresh, resetSuffix request s.units fresh = suffix

/-- One action keeps a session standing. -/
theorem Stands.step {port : Json} (stands : Stands s base port port c)
    (recorded : Recorded config request s url) (action : SessionAction)
    (within : action.Within s.units) :
    let (answer, c') := action.perform config request s.units c
    Sound s.units url action answer ∧ ∃ port', Stands s base port' port' c' := by
  cases action with
  | update changes =>
    rcases h : (changes.run s.units).run gateway c with ⟨answer, c', events⟩
    obtain ⟨traced, run⟩ := (run_eq_iff _ _ _ _ _ _).mp h
    simp only [SessionAction.perform, h]
    exact stands.updated (course_of_update traced) run url
  | reset fresh =>
    rcases h : (Lifecycle.reset config request s.units fresh).run gateway c with
      ⟨answer, c', events⟩
    obtain ⟨traced, run⟩ := (run_eq_iff _ _ _ _ _ _).mp h
    obtain ⟨plan, suffix, built, session, access, hsuffix⟩ := recorded
    obtain ⟨hanswer, hstands⟩ :=
      stands.reset session access built (hsuffix fresh) (course_of_reset traced) run
    simp only [SessionAction.perform, h]
    exact ⟨hanswer, s.port, hstands⟩
  | setStatus target status =>
    obtain ⟨c', hwrite, hstands⟩ := stands.written within status
    simp only [SessionAction.perform, hwrite]
    exact ⟨rfl, port, hstands⟩

/-- Any sequence of actions keeps a session standing. -/
theorem Stands.run {port : Json} (stands : Stands s base port port c)
    (recorded : Recorded config request s url) (actions : List SessionAction)
    (within : ∀ action ∈ actions, action.Within s.units) :
    let (answers, c') := performAll config request s.units actions c
    List.Forall₂ (Sound s.units url) actions answers ∧
      ∃ port', Stands s base port' port' c' := by
  -- Every action starts from the port that the one before it left.
  induction actions generalizing c port with
  | nil => exact ⟨.nil, port, stands⟩
  | cons action rest ih =>
    obtain ⟨sound, port', hstands⟩ :=
      stands.step recorded action (within action List.mem_cons_self)
    obtain ⟨sounds, hrest⟩ := ih hstands fun other hother =>
      within other (List.mem_cons_of_mem action hother)
    exact ⟨.cons sound sounds, hrest⟩

theorem Stands.ends {served routed : Json} (stands : Stands s base served routed c) :
    Ends s.units c := by
  unfold Ends
  rcases h : (Apply.teardown s.units).run gateway c with ⟨answer, c', events⟩
  obtain ⟨traced, run⟩ := (run_eq_iff _ _ _ _ _ _).mp h
  obtain ⟨hanswer, unarmed, gone, -⟩ := teardown_unarmed stands.unarmed traced run
  refine ⟨hanswer, fun target inside => ⟨gone target inside, fun registry => ?_⟩⟩
  rcases h : (Lifecycle.status registry target).run gateway c' with ⟨answer, c'', events⟩
  obtain ⟨traced, run⟩ := (run_eq_iff _ _ _ _ _ _).mp h
  obtain ⟨found, rest, rfl, hrest⟩ := (traces_perform_bind _ _ _ _).mp traced
  obtain ⟨d, hget, -⟩ := run
  obtain ⟨-, -, -, hmissing⟩ := get_unarmed unarmed hget
  obtain rfl := hmissing (gone target inside)
  obtain ⟨-, rfl⟩ := hrest
  rfl

/-- A session that is provisioned stands on the cluster. -/
theorem stands_provisioned {cancel : Cancellation} {c' : MemoryCluster} {events : List Event}
    {result : ApplyResult} (session : SessionOf plan s) (access : plan.access = some (.url url))
    (built : Plan.build config request suffix = .ok plan) (unarmed : Unarmed c)
    (course : ProvisionCourse config request suffix cancel events (.ok (.applied result)))
    (run : Serves gateway c events c') (success : result.isSuccess = true) :
    result = ⟨s.units, some url, none⟩ ∧ Stands s c s.port s.port c' := by
  cases course with
  | applied rebuilt sized checked carried =>
    cases built.symm.trans rebuilt
    obtain ⟨d, hchecks, happly⟩ := (serves_append _ _ _ _ _).mp run
    -- The check only lists, so the plan is applied to the objects that were there before.
    obtain ⟨calls, rfl⟩ := serves_lists hchecks (check_lists checked)
    obtain ⟨created, hresult⟩ := applyPlan_success access carried success
    rw [session.refs] at hresult
    have listed : Unarmed { c with calls := calls } := unarmed
    exact ⟨hresult, stands_created session created listed happly fun other _ => rfl⟩

end Runs

/-- What is true of a session from the cluster it began on, whatever is done with it. -/
def Lives (config : Config) (request : WorkloadRequest) (base c : MemoryCluster)
    (result : ApplyResult) : Prop :=
  ∃ s url, result = ⟨s.units, some url, none⟩ ∧
    ∀ actions : List SessionAction, (∀ action ∈ actions, action.Within s.units) →
      let (answers, c') := performAll config request s.units actions c
      List.Forall₂ (Sound s.units url) actions answers ∧
        (∃ port, Stands s base port port c') ∧ Ends s.units c'

/-- A session that was provisioned on a cluster without faults stands through everything that is
done with it, and ends with its teardown. The suffixes that sessions are given are hexadecimal
digits, so they have no hyphen. -/
theorem session_life (config : Config) (request : WorkloadRequest) (suffix : String)
    (cancel : Cancellation) (c c' : MemoryCluster) (result : ApplyResult) (events : List Event)
    (kind : request.kind = .session) (plain : '-' ∉ suffix.toList) (unarmed : Unarmed c)
    (provisioned : (Lifecycle.provision config request suffix cancel).run gateway c =
      (.ok (.applied result), c', events))
    (success : result.isSuccess = true) : Lives config request c c' result := by
  obtain ⟨traced, run⟩ := (run_eq_iff _ _ _ _ _ _).mp provisioned
  have course := course_of_provision traced
  obtain ⟨plan, built⟩ : ∃ plan, Plan.build config request suffix = .ok plan := by
    cases course with
    | applied built => exact ⟨_, built⟩
  obtain ⟨s, url, session, access, hsuffix⟩ := sessionOf_build kind plain built
  obtain ⟨hresult, stands⟩ := stands_provisioned session access built unarmed course run success
  refine ⟨s, url, hresult, fun actions within => ?_⟩
  have recorded : Recorded config request s url := ⟨plan, suffix, built, session, access, hsuffix⟩
  obtain ⟨sound, port, hstands⟩ := stands.run recorded actions within
  exact ⟨sound, ⟨port, hstands⟩, hstands.ends⟩

/-- A cluster with one node. -/
def roomyCluster : MemoryCluster :=
  MemoryCluster.empty.addNode ⟨"node", none, ⟨4000, 17179869184, 2⟩⟩

/-- The outcome is a workload of which all units were created. -/
def succeeded : Outcome Provisioned → Bool
  | .ok (.applied result) => result.isSuccess
  | _ => false

theorem claimingRequest_provisions :
    succeeded ((Lifecycle.provision .standard claimingRequest "1a2b3" .never).run gateway
      roomyCluster).1 = true := by
  decide +kernel

/-- A session whose labels claim to be another one is provisioned and lives all the same. -/
theorem session_life_despite_claims :
    ∃ c' result events, claimingRequest.kind = .session ∧ '-' ∉ "1a2b3".toList ∧
      Unarmed roomyCluster ∧
      (Lifecycle.provision .standard claimingRequest "1a2b3" .never).run gateway roomyCluster =
        (.ok (.applied result), c', events) ∧
      result.isSuccess = true ∧ Lives .standard claimingRequest roomyCluster c' result := by
  have provisions := claimingRequest_provisions
  rcases h : (Lifecycle.provision .standard claimingRequest "1a2b3" .never).run gateway
    roomyCluster with ⟨outcome, c', events⟩
  rw [h] at provisions
  obtain ⟨result, rfl⟩ : ∃ result, outcome = .ok (.applied result) := by
    match outcome, provisions with
    | .ok (.applied result), _ => exact ⟨result, rfl⟩
  exact ⟨c', result, events, rfl, by decide, rfl, rfl, provisions,
    session_life .standard claimingRequest "1a2b3" .never roomyCluster c' result events rfl
      (by decide) rfl h provisions⟩

end ClusterProvisioning.Proofs
