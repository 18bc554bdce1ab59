import ClusterProvisioning.Proofs.EditEffects
import ClusterProvisioning.Proofs.SessionLife

/-!
# One port in two objects

The port of a session stands in its service and in its route, and an update patches one after the
other. Nothing brings the service back when the route fails, so after an update that moves the port
the two agree unless the route was left behind, because it is not recorded or because the cluster
failed to read or to patch it (`ports_after_update`).
-/

namespace ClusterProvisioning.Proofs
open Program MemoryCluster Plan SessionUpdate

/-- What stands at a path of an object of a cluster. -/
def portAt (c : MemoryCluster) (target : Ref) (path : List String) : Option Json :=
  (c.object? target).bind fun object => object.at? path

/-- The cluster failed to hand out an object or to take it back. -/
def FailsOn (target : Ref) (failure : UpdateFailure) : Prop :=
  ∃ (step : ClusterStep) (report : Report GatewayError),
    failure = .failed (.above (.transport step) report) ∧
      (step = .get target ∨ step = .patch target)

/-- Where the ports of a service and a route stand after an update, if both stood at one port
before. -/
inductive PortsAfter (units : List Ref) (u : SessionUpdate) (service route : Ref) (old : Json)
    (answer : Except UpdateFailure (List Ref)) (c : MemoryCluster) : Prop
  /-- Neither moved: the update failed, or does not ask for a port of any of the two. -/
  | kept (served : portAt c service servicePortPath = some old)
      (routed : portAt c route destinationPortPath = some old)
      (reason : answer.isOk = true → u.servicePort = none ∨
        unitOf? units .service ≠ some service ∧ unitOf? units .virtualService ≠ some route)
  | moved {port : UInt16} (asked : u.servicePort = some port)
      (serviceFirst : unitOf? units .service = some service)
      (routeFirst : unitOf? units .virtualService = some route) (accepted : answer.isOk = true)
      (served : portAt c service servicePortPath = some (number16 port))
      (routed : portAt c route destinationPortPath = some (number16 port))
  /-- Only the service moved: the route is not the one that is recorded, or the cluster failed on
  it. -/
  | routeBehind {port : UInt16} (asked : u.servicePort = some port)
      (serviceFirst : unitOf? units .service = some service)
      (served : portAt c service servicePortPath = some (number16 port))
      (routed : portAt c route destinationPortPath = some old)
      (reason : unitOf? units .virtualService ≠ some route ∨
        ∃ failure, answer = .error failure ∧ FailsOn route failure)
  /-- Only the route moved: the service is not the one that is recorded. -/
  | serviceBehind {port : UInt16} (asked : u.servicePort = some port)
      (serviceOther : unitOf? units .service ≠ some service)
      (routeFirst : unitOf? units .virtualService = some route) (accepted : answer.isOk = true)
      (served : portAt c service servicePortPath = some old)
      (routed : portAt c route destinationPortPath = some (number16 port))

/-- What becomes of a port when one of its kind is assigned to: it is the new one if it is its own
turn, or it is left as it is by a failure, which in its own turn is the fault of the cluster. -/
inductive PortOutcome {α : Type} (own : Prop) [Decidable own] (target : Ref) (old new : Json)
    (answer : Except UpdateFailure α) (port : Option Json) : Prop
  | assigned (made : answer.isOk = true) (moved : port = some (if own then new else old))
  | failed {failure : UpdateFailure} (error : answer = .error failure) (left : port = some old)
      (fault : own → FailsOn target failure)

variable {c c' : MemoryCluster} {events : List Event} {units : List Ref} {u : SessionUpdate}
  {service route : Ref} {old : Json}

theorem portAt_congr {target : Ref} (same : c'.object? target = c.object? target)
    (path : List String) : portAt c' target path = portAt c target path := by
  rw [portAt, same]
  rfl

theorem PortsAfter.mapped {answer : Except UpdateFailure (List Ref)} {f : List Ref → List Ref}
    (after : PortsAfter units u service route old answer c) :
    PortsAfter units u service route old (answer.map f) c := by
  have hok : (answer.map f).isOk = answer.isOk := by cases answer <;> rfl
  cases after with
  | kept served routed reason => exact .kept served routed fun h => reason (hok ▸ h)
  | moved asked serviceFirst routeFirst accepted served routed =>
    exact .moved asked serviceFirst routeFirst (hok.trans accepted) served routed
  | routeBehind asked serviceFirst served routed reason =>
    refine .routeBehind asked serviceFirst served routed (reason.imp_right ?_)
    rintro ⟨failure, rfl, fails⟩
    exact ⟨failure, rfl, fails⟩
  | serviceBehind asked serviceOther routeFirst accepted served routed =>
    exact .serviceBehind asked serviceOther routeFirst (hok.trans accepted) served routed

/-! ### One assignment -/

/-- An assignment to a place that is there is made, or it is the cluster that failed. -/
theorem assignment_fails {target : Ref} {path : List String} {key : String} {value : Json}
    {failure : UpdateFailure} (inPlace : target.kind.patchableInPlace = true)
    (word : Json.position? key = none)
    (before : portAt c target ("spec" :: path ++ [key]) = some old)
    (course : EditCourse ⟨target, assignAt ("spec" :: path) key value⟩ events (.error failure))
    (served : Serves gateway c events c') : FailsOn target failure := by
  generalize hanswer : (Except.error failure : Except UpdateFailure Ref) = answer at course
  cases course with
  | unread =>
    cases hanswer
    exact ⟨.get target, _, rfl, .inl rfl⟩
  | @unchanged object other refused =>
    obtain ⟨d, hget, -⟩ := served
    obtain ⟨present, -⟩ := get_found hget
    have place : (withoutServerFields object).at? ("spec" :: path ++ [key]) = some old := by
      rw [List.cons_append, spec_withoutServerFields]
      rwa [portAt, present] at before
    obtain ⟨members, -, hassign⟩ := assignAt_present _ value word place
    cases hassign.symm.trans refused
  | @submitted object manifest rest outcome changed replaced =>
    cases replaced with
    | unpatched =>
      cases hanswer
      exact ⟨.patch target, _, rfl, .inr rfl⟩
    | patched => cases hanswer
    | recreated => cases hanswer
    | stuck recreated => cases inPlace.symm.trans recreated
    | lost recreated => cases inPlace.symm.trans recreated

/-- An assignment in one object, seen from an object of its kind that has a value at the same
place. -/
theorem assignment_outcome (path : List String) (key : String) {value : Json} {target other : Ref}
    {answer : Except UpdateFailure Ref} (inPlace : target.kind.patchableInPlace = true)
    (sameKind : other.kind = target.kind) (word : Json.position? key = none)
    (desired : Desired ("spec" :: path ++ [key]))
    (before : portAt c other ("spec" :: path ++ [key]) = some old)
    (course : EditCourse ⟨target, assignAt ("spec" :: path) key value⟩ events answer)
    (served : Serves gateway c events c') :
    PortOutcome (target = other) other old value answer
      (portAt c' other ("spec" :: path ++ [key])) := by
  cases answer with
  | error failure =>
    refine .failed rfl ?_ ?_
    · rwa [portAt_congr (congrArg (Assoc.get? · other) (editCourse_failed inPlace course served))]
    · rintro rfl
      exact assignment_fails inPlace word before course served
  | ok made =>
    obtain ⟨stored, manifest, object, replaces⟩ := editCourse_replaces course served
    have hmade : made = target := replaces.lands.inPlace inPlace
    rw [hmade] at replaces
    refine .assigned rfl ?_
    by_cases h : target = other
    · subst h
      rw [if_pos rfl, portAt, replaces.live, Option.bind_some,
        at?_of_assigned path key desired replaces.retains replaces.changed]
      have hstored : stored.at? ("spec" :: path ++ [key]) = some old := by
        rwa [portAt, replaces.present] at before
      obtain ⟨place, hplace, -⟩ := Option.bind_eq_some_iff.mp
        ((at?_append stored ("spec" :: path) [key]).symm.trans hstored)
      rw [hplace]
      rfl
    · rw [if_neg h, portAt_congr]
      · exact before
      · rw [replaces.objects other sameKind, if_neg (Ne.symm h), if_neg (Ne.symm h)]

theorem serviceEdit_outcome {recorded : Ref} {port : UInt16} {answer : Except UpdateFailure Ref}
    (kind : service.kind = .service) (first : unitOf? units .service = some recorded)
    (before : portAt c service servicePortPath = some old)
    (course : EditCourse (serviceEdit recorded port) events answer)
    (served : Serves gateway c events c') :
    PortOutcome (recorded = service) service old (number16 port) answer
      (portAt c' service servicePortPath) :=
  assignment_outcome ["ports", "0"] "port" ((unitOf?_patchable first).trans (by decide))
    (kind.trans (unitOf?_kind first).symm) (by decide) (.port (by decide)) before course served

theorem routeEdit_outcome {recorded : Ref} {port : UInt16} {answer : Except UpdateFailure Ref}
    (kind : route.kind = .virtualService) (first : unitOf? units .virtualService = some recorded)
    (before : portAt c route destinationPortPath = some old)
    (course : EditCourse (routeEdit recorded port) events answer)
    (served : Serves gateway c events c') :
    PortOutcome (recorded = route) route old (number16 port) answer
      (portAt c' route destinationPortPath) :=
  assignment_outcome ["http", "0", "route", "0", "destination", "port"] "number"
    ((unitOf?_patchable first).trans (by decide)) (kind.trans (unitOf?_kind first).symm)
    (by decide) (.spec (by decide)) before course served

/-! ### The two ports -/

/-- The edits that follow that of the service are of the first route, if there is one. -/
theorem routes_outcome {port : UInt16} {answer : Except UpdateFailure (List Ref)}
    (kind : route.kind = .virtualService) (before : portAt c route destinationPortPath = some old)
    (course : EditsCourse ((unitOf? units .virtualService).map fun r => routeEdit r port).toList
      events answer) (served : Serves gateway c events c') :
    PortOutcome (unitOf? units .virtualService = some route) route old (number16 port) answer
      (portAt c' route destinationPortPath) := by
  cases first : unitOf? units .virtualService with
  | none =>
    rw [first] at course
    cases course
    obtain rfl := served
    exact .assigned rfl before
  | some recorded =>
    rw [first] at course
    cases course with
    | failed course =>
      cases routeEdit_outcome kind first before course served with
      | assigned made => cases made
      | failed error left fault =>
        cases error
        exact .failed rfl left fun own => fault (Option.some.inj own)
    | cons course others =>
      obtain ⟨d, hedit, hrest⟩ := (serves_append _ _ _ _ _).mp served
      cases others
      obtain rfl := hrest
      cases routeEdit_outcome kind first before course hedit with
      | assigned made moved =>
        simp only [Option.some.injEq]
        exact .assigned rfl moved
      | failed error => cases error

/-- Once the port of the first service is set, the two ports are as the edit of the route leaves
them. -/
theorem PortsAfter.of_route {recorded : Ref} {port : UInt16}
    {answer : Except UpdateFailure (List Ref)} (asked : u.servicePort = some port)
    (first : unitOf? units .service = some recorded)
    (served : portAt c service servicePortPath =
      some (if recorded = service then number16 port else old))
    (outcome : PortOutcome (unitOf? units .virtualService = some route) route old (number16 port)
      answer (portAt c route destinationPortPath)) :
    PortsAfter units u service route old answer c := by
  by_cases same : recorded = service
  · subst same
    rw [if_pos rfl] at served
    by_cases routeFirst : unitOf? units .virtualService = some route
    · cases outcome with
      | assigned made moved =>
        rw [if_pos routeFirst] at moved
        exact .moved asked first routeFirst made served moved
      | failed error left fault =>
        exact .routeBehind asked first served left (.inr ⟨_, error, fault routeFirst⟩)
    · cases outcome with
      | assigned made moved =>
        rw [if_neg routeFirst] at moved
        exact .routeBehind asked first served moved (.inl routeFirst)
      | failed error left fault => exact .routeBehind asked first served left (.inl routeFirst)
  · rw [if_neg same] at served
    have serviceOther : unitOf? units .service ≠ some service := by
      rw [first]
      exact fun h => same (Option.some.inj h)
    cases outcome with
    | assigned made moved =>
      by_cases routeFirst : unitOf? units .virtualService = some route
      · rw [if_pos routeFirst] at moved
        exact .serviceBehind asked serviceOther routeFirst made served moved
      · rw [if_neg routeFirst] at moved
        exact .kept served moved fun _ => .inr ⟨serviceOther, routeFirst⟩
    | failed error left fault =>
      rw [error]
      exact .kept served left nofun

/-- A new port of the first service, seen from any service and any route with one port. -/
theorem ports_edited {recorded : Ref} {port : UInt16} {gpu : Option UInt64}
    {answer : Except UpdateFailure (List Ref)} (asked : u.servicePort = some port)
    (first : unitOf? units .service = some recorded) (serviceKind : service.kind = .service)
    (routeKind : route.kind = .virtualService)
    (serviceBefore : portAt c service servicePortPath = some old)
    (routeBefore : portAt c route destinationPortPath = some old)
    (course : EditsCourse (edits units gpu ⟨none, some (recorded, port)⟩) events answer)
    (served : Serves gateway c events c') : PortsAfter units u service route old answer c' := by
  have routeKept : ∀ {events answer d}, EditCourse (serviceEdit recorded port) events answer →
      Serves gateway c events d → portAt d route destinationPortPath = some old := by
    intro events answer d course served
    have apart : route.kind ≠ recorded.kind := by
      rw [routeKind, unitOf?_kind first]
      decide
    exact (portAt_congr (editCourse_frame course served apart) _).trans routeBefore
  change EditsCourse (serviceEdit recorded port :: _) events answer at course
  cases course with
  | failed course =>
    cases serviceEdit_outcome serviceKind first serviceBefore course served with
    | assigned made => cases made
    | failed error left => exact .kept left (routeKept course served) nofun
  | cons course others =>
    obtain ⟨d, hedit, hrest⟩ := (serves_append _ _ _ _ _).mp served
    cases serviceEdit_outcome serviceKind first serviceBefore course hedit with
    | failed error => cases error
    | assigned _ moved =>
      have serviceKept : portAt c' service servicePortPath = portAt d service servicePortPath := by
        refine portAt_congr (editsCourse_frame others hrest fun edit hedit => ?_) _
        obtain ⟨r, hr, rfl⟩ := Option.map_eq_some_iff.mp (Option.mem_toList.mp hedit)
        change service.kind ≠ r.kind
        rw [serviceKind, unitOf?_kind hr]
        decide
      have routed := routes_outcome routeKind (routeKept course hedit) others hrest
      exact (PortsAfter.of_route asked first (serviceKept.trans moved) routed).mapped

/-! ### Updates -/

/-- The edits of an update begin with that of the pod, which leaves services and routes alone. -/
theorem editsCourse_pod {gpu : Option UInt64} {pod : Option (Ref × Table Json)}
    {service : Option (Ref × UInt16)} {answer : Except UpdateFailure (List Ref)}
    (kind : ∀ target changes, pod = some (target, changes) → target.kind = .pod)
    (course : EditsCourse (edits units gpu ⟨pod, service⟩) events answer)
    (served : Serves gateway c events c') :
    ∃ d, (∀ other, other.kind ≠ .pod → d.object? other = c.object? other) ∧
      ((∃ failure, answer = .error failure ∧ c' = d) ∨
        ∃ rest others f, EditsCourse (edits units gpu ⟨none, service⟩) rest others ∧
          Serves gateway d rest c' ∧ answer = others.map f) := by
  cases pod with
  | none =>
    refine ⟨c, fun _ _ => rfl, .inr ⟨events, answer, id, course, served, ?_⟩⟩
    cases answer <;> rfl
  | some work =>
    have frame : ∀ {events answer d}, EditCourse (podEdit work.1 work.2 gpu) events answer →
        Serves gateway c events d →
        ∀ other : Ref, other.kind ≠ .pod → d.object? other = c.object? other := by
      intro events answer d course served other h
      refine editCourse_frame course served ?_
      change other.kind ≠ work.1.kind
      rwa [kind work.1 work.2 rfl]
    change EditsCourse (podEdit work.1 work.2 gpu :: edits units gpu ⟨none, service⟩) events answer
      at course
    cases course with
    | @failed _ _ _ failure course => exact ⟨c', frame course served, .inl ⟨failure, rfl, rfl⟩⟩
    | @cons _ _ _ _ made _ course others =>
      obtain ⟨d, hedit, hrest⟩ := (serves_append _ _ _ _ _).mp served
      exact ⟨d, frame course hedit, .inr ⟨_, _, (made :: ·), others, hrest, rfl⟩⟩

/-- A service and a route with one port agree after an update, unless one of them is not the one
that is recorded, or the cluster failed on the route after the service was patched. -/
theorem ports_after_update (units : List Ref) (u : SessionUpdate) (service route : Ref)
    (old : Json) (c c' : MemoryCluster) (answer : Except UpdateFailure (List Ref))
    (events : List Event) (serviceKind : service.kind = .service)
    (routeKind : route.kind = .virtualService)
    (served : portAt c service servicePortPath = some old)
    (routed : portAt c route destinationPortPath = some old)
    (run : (u.run units).run gateway c = (answer, c', events)) :
    PortsAfter units u service route old answer c' := by
  obtain ⟨course, serves⟩ := course_of_run run
  cases course with
  | idle empty =>
    obtain rfl := serves
    refine .kept served routed fun _ => .inl ?_
    exact Option.isNone_iff_eq_none.mp (Bool.and_eq_true_iff.mp empty).2
  | refused refused =>
    obtain rfl := serves
    exact .kept served routed nofun
  | @carried w events answer settled course =>
    obtain ⟨pod, work⟩ := w
    obtain ⟨d, frame, hrest⟩ := editsCourse_pod (work_kinds settled).1 course serves
    have hservice : portAt d service servicePortPath = some old :=
      (portAt_congr (frame service (by rw [serviceKind]; decide)) _).trans served
    have hroute : portAt d route destinationPortPath = some old :=
      (portAt_congr (frame route (by rw [routeKind]; decide)) _).trans routed
    rcases hrest with ⟨failure, rfl, rfl⟩ | ⟨rest, others, f, ports, hrest, rfl⟩
    · exact .kept hservice hroute nofun
    rcases work_service settled with ⟨none, hwork⟩ | ⟨recorded, port, asked, -, first, hwork⟩
    · cases hwork
      cases ports
      obtain rfl := hrest
      exact .kept hservice hroute fun _ => .inl none
    · cases hwork
      exact (ports_edited asked first serviceKind routeKind hservice hroute ports hrest).mapped

/-- A service and a route with one port, and a route that cannot be patched. -/
def portsCluster : MemoryCluster :=
  let named := fun name => ("metadata", Json.object [("name", .string name)])
  let service := Json.object [named "served",
    ("spec", .object [("ports", .array [.object [("port", number16 80)]])])]
  let destination := Json.object [("port", .object [("number", number16 80)])]
  let http := Json.object [("route", .array [.object [("destination", destination)]])]
  let route := Json.object [named "routed", ("spec", .object [("http", .array [http])])]
  ((MemoryCluster.empty.insertObject "lab" .service service).insertObject "lab" .virtualService
    route).failOn .update "routed"

theorem ports_after_update_stuck :
    let service : Ref := ⟨.service, "lab", "served"⟩
    let route : Ref := ⟨.virtualService, "lab", "routed"⟩
    let u : SessionUpdate := ⟨none, none, none, some 8888⟩
    ∃ c' failure events, service.kind = .service ∧ route.kind = .virtualService ∧
      portAt portsCluster service servicePortPath = some (number16 80) ∧
      portAt portsCluster route destinationPortPath = some (number16 80) ∧
      (u.run [service, route]).run gateway portsCluster = (.error failure, c', events) ∧
      PortsAfter [service, route] u service route (number16 80) (.error failure) c' := by
  intro service route u
  exact ⟨_, _, _, rfl, rfl, rfl, rfl, rfl,
    ports_after_update [service, route] u service route _ portsCluster _ _ _ rfl rfl rfl rfl rfl⟩

/-! ### A session whose ports part -/

/-- A cluster with a session at one port. -/
def sessionCluster : MemoryCluster :=
  ((Lifecycle.provision .standard claimingRequest "1a2b3" .never).run gateway roomyCluster).2.1

def sessionPod : Ref := ⟨.pod, "jupyter", "ada-lovelace-1a2b3"⟩
def sessionService : Ref := ⟨.service, "jupyter", "ada-lovelace-1a2b3-svc"⟩
def sessionRoute : Ref := ⟨.virtualService, "jupyter", "ada-lovelace-1a2b3"⟩

/-- The ports of the service and the route of the session. -/
def sessionPorts (c : MemoryCluster) : Option Nat × Option Nat :=
  ((portAt c sessionService servicePortPath).bind Json.nat?,
    (portAt c sessionRoute destinationPortPath).bind Json.nat?)

/-- Whether an update of the port is accepted, and the ports after it. -/
def portMoved (units : List Ref) (c : MemoryCluster) : Bool × Option Nat × Option Nat :=
  let (answer, c', _) := (SessionUpdate.run units ⟨none, none, none, some 9999⟩).run gateway c
  (answer.isOk, sessionPorts c')

/-- Service and route of a session part when the route cannot be patched, when it cannot be read,
and when it is not recorded. -/
theorem session_ports_part :
    sessionPorts sessionCluster = (some 8888, some 8888) ∧
      portMoved [sessionPod, sessionService, sessionRoute]
        (sessionCluster.failOn .update sessionRoute.name) = (false, some 9999, some 8888) ∧
      portMoved [sessionPod, sessionService, sessionRoute]
        (sessionCluster.failOn .get sessionRoute.name) = (false, some 9999, some 8888) ∧
      portMoved [sessionPod, sessionService] sessionCluster = (true, some 9999, some 8888) := by
  decide +kernel

end ClusterProvisioning.Proofs
