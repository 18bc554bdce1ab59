import ClusterProvisioning.Proofs.EditDifferences

/-!
# What an update leaves alone

An update that is accepted changes the first pod, the first service and the first route among the
units, and each of them only if it asks for it. In these objects it changes what `PodKept` and
`PortKept` allow, and every other object stays as it is (`update_framed`).
-/

namespace ClusterProvisioning.Proofs
open Program MemoryCluster Plan SessionUpdate

/-- An object stands on a cluster before and after, and is kept in some way. -/
def KeptAs (kept : Json → Json → Prop) (c c' : MemoryCluster) (target : Ref) : Prop :=
  ∃ stored object, c.object? target = some stored ∧ c'.object? target = some object ∧
    kept stored object

/-- What an update that is accepted can have changed. -/
structure Framed (units : List Ref) (u : SessionUpdate) (c c' : MemoryCluster)
    (events : List Event) : Prop where
  others : ∀ other, unitOf? units .pod ≠ some other → unitOf? units .service ≠ some other →
    unitOf? units .virtualService ≠ some other → c'.object? other = c.object? other
  pod : u.touchesResources = true → ∀ pod, unitOf? units .pod = some pod →
    KeptAs (PodKept u pod.ns) c c' pod
  service : u.servicePort ≠ none → ∀ service, unitOf? units .service = some service →
    KeptAs (PortKept servicePortPath) c c' service
  route : u.servicePort ≠ none → ∀ route, unitOf? units .virtualService = some route →
    KeptAs (PortKept destinationPortPath) c c' route
  /-- Without new resources no pod is touched. -/
  noResources : u.touchesResources = false → ∀ other : Ref, other.kind = .pod →
    Untouched c c' events other
  /-- Without a new port neither a service nor a route is touched. -/
  noPort : u.servicePort = none → ∀ other : Ref,
    other.kind = .service ∨ other.kind = .virtualService → Untouched c c' events other

variable {c c' : MemoryCluster} {u : SessionUpdate} {changes : Table Json} {made : Ref}
  {stored manifest object : Json}

/-- Of the objects of one kind only one changed, and it is kept in some way. -/
def Alone (kept : Json → Json → Prop) (c c' : MemoryCluster) (target : Ref) : Prop :=
  KeptAs kept c c' target ∧
    ∀ other, other.kind = target.kind → other ≠ target → c'.object? other = c.object? other

/-! ### Objects that are replaced where they stand -/

theorem Replaces.alone {edit : Edit} {kept : Json → Json → Prop}
    (replaces : Replaces c edit made stored manifest object c')
    (self : made = edit.target ∧ kept stored object) : Alone kept c c' edit.target := by
  obtain ⟨rfl, hkept⟩ := self
  refine ⟨⟨stored, object, replaces.present, replaces.live, hkept⟩, fun other kind h => ?_⟩
  rw [replaces.objects other kind, if_neg h, if_neg h]

theorem Replaces.recreated {edit : Edit} (replaces : Replaces c edit made stored manifest object c')
    (recreated : edit.target.kind.patchableInPlace = false) :
    StoredAs (Manifest.placedIn edit.target.ns manifest) object := by
  have h := replaces.submitted
  rwa [resubmitted, if_neg (Bool.eq_false_iff.mp recreated)] at h

theorem Replaces.patched {edit : Edit} (replaces : Replaces c edit made stored manifest object c')
    (inPlace : edit.target.kind.patchableInPlace = true) :
    StoredAs (withStatusOf stored manifest) object := by
  have h := replaces.submitted
  rwa [resubmitted, if_pos inPlace] at h

theorem podEdit_kept {pod : Ref} (kind : pod.kind = .pod) (touches : u.touchesResources = true)
    (checked : u.amountChanges = .ok changes) (own : Manifest.name? stored = some pod.name)
    (unwanted : Manifest.wantsNodePorts stored = false)
    (replaces : Replaces c (podEdit pod changes u.gpu) made stored manifest object c') :
    made = pod ∧ PodKept u pod.ns stored object := by
  have recreated : pod.kind.patchableInPlace = false := by rw [kind]; decide
  obtain ⟨members, present, changed⟩ := podEdit_ok replaces.changed
  have named : Manifest.name? manifest = some pod.name := by
    rw [changed, ← own]
    exact (modifySpec_name? _ _ _).trans (retains_withoutServerFields stored).name?
  exact ⟨replaces.lands.self fun _ => named,
    podKept_of_set touches checked own unwanted present changed (replaces.recreated recreated)⟩

theorem serviceEdit_kept {service : Ref} {port : UInt16} (kind : service.kind = .service)
    (replaces : Replaces c (serviceEdit service port) made stored manifest object c') :
    made = service ∧ PortKept servicePortPath stored object := by
  have inPlace : service.kind.patchableInPlace = true := by rw [kind]; decide
  refine ⟨replaces.lands.inPlace inPlace, ?_⟩
  exact portKept_of_assigned ["ports"] (distinct_path (by decide))
    (by simp [Elsewhere, List.cons_prefix_cons]) (by simp [Elsewhere, List.cons_prefix_cons])
    replaces.changed (replaces.patched inPlace)

theorem routeEdit_kept {route : Ref} {port : UInt16} (kind : route.kind = .virtualService)
    (replaces : Replaces c (routeEdit route port) made stored manifest object c') :
    made = route ∧ PortKept destinationPortPath stored object := by
  have inPlace : route.kind.patchableInPlace = true := by rw [kind]; decide
  refine ⟨replaces.lands.inPlace inPlace, ?_⟩
  exact portKept_of_assigned ["http", "0", "route", "0", "destination"] (distinct_path (by decide))
    (by simp [Elsewhere, List.cons_prefix_cons]) (by simp [Elsewhere, List.cons_prefix_cons])
    replaces.changed (replaces.patched inPlace)

/-! ### Updates -/

/-- The recorded pod stands under its own name, and asks for no node ports. -/
def Own (units : List Ref) (c : MemoryCluster) : Prop :=
  ∀ pod stored, unitOf? units .pod = some pod → c.object? pod = some stored →
    Manifest.name? stored = some pod.name ∧ Manifest.wantsNodePorts stored = false

section
variable {units replaced : List Ref} {port : UInt16}

theorem pod_alone {w : Work} {pod : Ref} (own : Own units c) (settled : work units u = .ok w)
    (edited : ∀ edit, Asked units u edit → ∃ made ∈ replaced, Made c c' edit made)
    (touches : u.touchesResources = true) (first : unitOf? units .pod = some pod) :
    Alone (PodKept u pod.ns) c c' pod := by
  obtain ⟨_, changes, first', checked, -⟩ := work_touches settled touches
  cases first.symm.trans first'
  obtain ⟨made, -, stored, manifest, object, replaces⟩ := edited _ (.pod touches first checked)
  obtain ⟨named, unwanted⟩ := own pod stored first replaces.present
  exact replaces.alone (podEdit_kept (unitOf?_kind first) touches checked named unwanted replaces)

theorem service_alone {service : Ref}
    (edited : ∀ edit, Asked units u edit → ∃ made ∈ replaced, Made c c' edit made)
    (asked : u.servicePort = some port) (first : unitOf? units .service = some service) :
    Alone (PortKept servicePortPath) c c' service := by
  obtain ⟨made, -, stored, manifest, object, replaces⟩ := edited _ (.service asked first)
  exact replaces.alone (serviceEdit_kept (unitOf?_kind first) replaces)

theorem route_alone {route : Ref}
    (edited : ∀ edit, Asked units u edit → ∃ made ∈ replaced, Made c c' edit made)
    (asked : u.servicePort = some port) (first : unitOf? units .virtualService = some route) :
    Alone (PortKept destinationPortPath) c c' route := by
  obtain ⟨made, -, stored, manifest, object, replaces⟩ := edited _ (.route asked first)
  exact replaces.alone (routeEdit_kept (unitOf?_kind first) replaces)

end

/-- An update that is accepted leaves everything alone that it does not ask for. -/
theorem update_framed (units : List Ref) (u : SessionUpdate) (c c' : MemoryCluster)
    (replaced : List Ref) (events : List Event) (own : Own units c)
    (run : (u.run units).run gateway c = (.ok replaced, c', events)) :
    Framed units u c c' events := by
  obtain ⟨course, served⟩ := course_of_run run
  obtain ⟨⟨w, settled⟩, edited, untouched⟩ := replaced_of_update course served
  constructor
  · intro other notPod notService notRoute
    by_cases asked : ∃ edit, Asked units u edit ∧ other.kind = edit.target.kind
    · obtain ⟨edit, asked, kind⟩ := asked
      cases asked with
      | pod touches first =>
        exact (pod_alone own settled edited touches first).2 other kind fun h =>
          notPod (h ▸ first)
      | service asked first =>
        exact (service_alone edited asked first).2 other kind fun h => notService (h ▸ first)
      | route asked first =>
        exact (route_alone edited asked first).2 other kind fun h => notRoute (h ▸ first)
    · exact (untouched other fun edit h kind => asked ⟨edit, h, kind⟩).1
  · exact fun touches pod first => (pod_alone own settled edited touches first).1
  · intro asked service first
    obtain ⟨port, asked⟩ := Option.ne_none_iff_exists'.mp asked
    exact (service_alone edited asked first).1
  · intro asked route first
    obtain ⟨port, asked⟩ := Option.ne_none_iff_exists'.mp asked
    exact (route_alone edited asked first).1
  · intro noResources other kind
    refine untouched other fun edit asked same => ?_
    cases asked with
    | pod touches => cases noResources.symm.trans touches
    | service _ first =>
      exact absurd (kind.symm.trans (same.trans (unitOf?_kind first))) (by decide)
    | route _ first =>
      exact absurd (kind.symm.trans (same.trans (unitOf?_kind first))) (by decide)
  · intro noPort other kind
    refine untouched other fun edit asked same => ?_
    cases asked with
    | pod _ first =>
      have isPod : other.kind = .pod := same.trans (unitOf?_kind first)
      rw [isPod] at kind
      exact absurd kind (by decide)
    | service asked => cases noPort.symm.trans asked
    | route asked => cases noPort.symm.trans asked

theorem lab_own (limits : Json) (ports : List Json) : Own labUnits (labCluster limits ports) := by
  rintro pod stored ⟨⟩ ⟨⟩
  exact ⟨rfl, rfl⟩

theorem update_framed_lab :
    let c := labCluster (.object []) [.object [("port", number16 80)]]
    ∃ c' events, Own labUnits c ∧
      (labUpdate.run labUnits).run gateway c = (.ok labUnits, c', events) ∧
      Framed labUnits labUpdate c c' events := by
  intro c
  exact ⟨_, _, lab_own _ _, rfl,
    update_framed labUnits labUpdate c _ labUnits _ (lab_own _ _) rfl⟩

/-- A null in the place of a port becomes an object, so a service can differ at more than the port,
its fields of the cluster and its node ports. -/
theorem null_port_replaced :
    let c := labCluster (.object []) [.null]
    ∃ c' events stored object, Unarmed c ∧ Own labUnits c ∧
      (labUpdate.run labUnits).run gateway c = (.ok labUnits, c', events) ∧
      c.object? ⟨.service, "lab", "ada"⟩ = some stored ∧
      c'.object? ⟨.service, "lab", "ada"⟩ = some object ∧
      ¬DiffersAt none (PortPlace servicePortPath stored) stored object := by
  intro c
  have outside : ∀ stored place, PortPlace servicePortPath stored place →
      ¬place <+: ["spec", "ports", "0"] := by
    intro stored place hplace
    cases hplace <;> simp [servicePortPath, List.cons_prefix_cons]
  refine ⟨_, _, _, _, rfl, lab_own _ _, rfl, rfl, rfl, fun differs => ?_⟩
  rcases differs ["spec", "ports", "0"] (outside _) with same | ⟨-, kept | ⟨absent, -⟩⟩
  · cases same
  · cases kept
  · cases absent

end ClusterProvisioning.Proofs
