import ClusterProvisioning.Proofs.PlanBuild
import ClusterProvisioning.Proofs.UpdateCourse

/-!
# What an update asks for

An update asks for amounts of the first pod and for a port of the first service, each checked by
itself (`work_ok`). The port goes to the first route as well, and these are all the edits of an
update (`mem_edits_iff`), each of an object of another kind (`edits_apart`).
-/

namespace ClusterProvisioning.Proofs
open SessionUpdate

variable {units : List Ref} {u : SessionUpdate} {w : Work}

/-! ### Amounts -/

/-- The entry of an amount that is given. -/
def amountEntry (name : String) (text : Option String) : Table Json :=
  (text.map fun text => (name, Json.string (Text.trim text))).toList

/-- Amounts are set as they are given, once each of them can be read. -/
theorem amountChanges_eq (u : SessionUpdate) :
    u.amountChanges = do
      let _ ← u.cpu.mapM ContainerResources.requestedCpu
      let _ ← u.memory.mapM ContainerResources.requestedMemory
      return amountEntry "cpu" u.cpu ++ amountEntry "memory" u.memory := by
  obtain ⟨cpu, memory, gpu, port⟩ := u
  unfold amountChanges
  cases cpu with
  | none =>
    cases memory with
    | none => rfl
    | some memory =>
      dsimp [amountEntry]
      cases ContainerResources.requestedMemory memory <;> rfl
  | some cpu =>
    dsimp [amountEntry]
    cases ContainerResources.requestedCpu cpu with
    | error report => rfl
    | ok n =>
      cases memory with
      | none => rfl
      | some memory =>
        dsimp
        cases ContainerResources.requestedMemory memory <;> rfl

theorem amountChanges_ok {changes : Table Json} (checked : u.amountChanges = .ok changes) :
    (∀ cpu, u.cpu = some cpu → ∃ n, ContainerResources.requestedCpu cpu = .ok n) ∧
      (∀ memory, u.memory = some memory →
        ∃ n, ContainerResources.requestedMemory memory = .ok n) ∧
      changes = amountEntry "cpu" u.cpu ++ amountEntry "memory" u.memory := by
  rw [amountChanges_eq] at checked
  obtain ⟨cpu, hcpu, h⟩ := outcome_bind_ok.mp checked
  obtain ⟨memory, hmemory, ⟨⟩⟩ := outcome_bind_ok.mp h
  refine ⟨fun text htext => ?_, fun text htext => ?_, rfl⟩
  · rw [htext] at hcpu
    obtain ⟨n, hn, -⟩ := outcome_bind_ok.mp hcpu
    exact ⟨n, hn⟩
  · rw [htext] at hmemory
    obtain ⟨n, hn, -⟩ := outcome_bind_ok.mp hmemory
    exact ⟨n, hn⟩

theorem amountChanges_error {report : Report ProvisionError}
    (refused : u.amountChanges = .error report) :
    (∃ cpu, u.cpu = some cpu ∧ ContainerResources.requestedCpu cpu = .error report) ∨
      ∃ memory, u.memory = some memory ∧
        ContainerResources.requestedMemory memory = .error report := by
  rw [amountChanges_eq] at refused
  obtain ⟨cpu, memory, gpu, port⟩ := u
  rcases outcome_bind_error.mp refused with h | ⟨_, -, h⟩
  · left
    cases cpu with
    | none => cases h
    | some cpu =>
      rcases outcome_bind_error.mp h with h | ⟨_, -, ⟨⟩⟩
      exact ⟨cpu, rfl, h⟩
  · rcases outcome_bind_error.mp h with h | ⟨_, -, ⟨⟩⟩
    right
    cases memory with
    | none => cases h
    | some memory =>
      rcases outcome_bind_error.mp h with h | ⟨_, -, ⟨⟩⟩
      exact ⟨memory, rfl, h⟩

/-! ### Units -/

theorem unitOf?_kind {kind : Kind} {unit : Ref}
    (h : unitOf? units kind = some unit) : unit.kind = kind := by
  simpa using List.find?_some h

theorem unitOf?_patchable {kind : Kind} {unit : Ref} (h : unitOf? units kind = some unit) :
    unit.kind.patchableInPlace = kind.patchableInPlace :=
  congrArg Kind.patchableInPlace (unitOf?_kind h)

/-- What an update asks for of the pod among some units, checked. -/
def podWork (units : List Ref) (u : SessionUpdate) : Outcome (Option (Ref × Table Json)) :=
  if u.touchesResources then
    match unitOf? units .pod with
    | none => .error (.of (.validation .noSessionPod))
    | some pod => do return some (pod, ← u.amountChanges)
  else .ok none

/-- What an update asks for of the service among some units, checked. -/
def serviceWork (units : List Ref) (u : SessionUpdate) : Outcome (Option (Ref × UInt16)) :=
  match u.servicePort with
  | none => .ok none
  | some port =>
    if port = 0 then .error (.of (.validation .servicePortZero))
    else match unitOf? units .service with
      | none => .error (.of (.validation .noSessionService))
      | some service => .ok (some (service, port))

theorem work_eq (units : List Ref) (u : SessionUpdate) :
    work units u = do return ⟨← podWork units u, ← serviceWork units u⟩ := by
  have service : ∀ pod : Option (Ref × Table Json),
      (match u.servicePort with
        | none => (.ok ⟨pod, none⟩ : Outcome Work)
        | some port =>
          if port = 0 then .error (.of (.validation .servicePortZero))
          else match unitOf? units .service with
            | none => .error (.of (.validation .noSessionService))
            | some service => .ok ⟨pod, some (service, port)⟩) =
        do return ⟨pod, ← serviceWork units u⟩ := by
    intro pod
    unfold serviceWork
    cases u.servicePort with
    | none => rfl
    | some port =>
      dsimp only
      split
      · rfl
      · cases unitOf? units .service <;> rfl
  unfold work podWork
  cases u.touchesResources with
  | false => exact service none
  | true =>
    cases unitOf? units .pod with
    | none => rfl
    | some pod =>
      cases u.amountChanges with
      | error report => rfl
      | ok changes => exact service (some (pod, changes))

/-- What an update asks for is settled for pod and service apart. -/
theorem work_ok :
    work units u = .ok w ↔ podWork units u = .ok w.pod ∧ serviceWork units u = .ok w.service := by
  rw [work_eq]
  constructor
  · intro h
    obtain ⟨pod, hpod, h⟩ := outcome_bind_ok.mp h
    obtain ⟨service, hservice, ⟨⟩⟩ := outcome_bind_ok.mp h
    exact ⟨hpod, hservice⟩
  · rintro ⟨hpod, hservice⟩
    rw [hpod, hservice]
    rfl

/-- Resources are asked for of the first pod, with amounts that were checked. -/
theorem work_pod (settled : work units u = .ok w) :
    u.touchesResources = false ∧ w.pod = none ∨
      ∃ pod changes, u.touchesResources = true ∧ unitOf? units .pod = some pod ∧
        u.amountChanges = .ok changes ∧ w.pod = some (pod, changes) := by
  have hpod := (work_ok.mp settled).1
  unfold podWork at hpod
  split at hpod
  next touches =>
    split at hpod
    · cases hpod
    next pod first =>
      obtain ⟨changes, hchanges, h⟩ := outcome_bind_ok.mp hpod
      exact .inr ⟨pod, changes, touches, first, hchanges, (Except.ok.inj h).symm⟩
  next untouched => exact .inl ⟨Bool.eq_false_iff.mpr untouched, (Except.ok.inj hpod).symm⟩

/-- A port is asked for of the first service. -/
theorem work_service (settled : work units u = .ok w) :
    u.servicePort = none ∧ w.service = none ∨
      ∃ service port, u.servicePort = some port ∧ port ≠ 0 ∧
        unitOf? units .service = some service ∧ w.service = some (service, port) := by
  have hservice := (work_ok.mp settled).2
  unfold serviceWork at hservice
  split at hservice
  next none => exact .inl ⟨none, (Except.ok.inj hservice).symm⟩
  next port asked =>
    split at hservice
    · cases hservice
    next nonzero =>
      split at hservice
      · cases hservice
      next service first =>
        exact .inr ⟨service, port, asked, nonzero, first, (Except.ok.inj hservice).symm⟩

theorem work_touches (settled : work units u = .ok w) (touches : u.touchesResources = true) :
    ∃ pod changes, unitOf? units .pod = some pod ∧ u.amountChanges = .ok changes ∧
      w.pod = some (pod, changes) := by
  rcases work_pod settled with ⟨untouched, -⟩ | ⟨pod, changes, -, first, checked, hpod⟩
  · cases touches.symm.trans untouched
  · exact ⟨pod, changes, first, checked, hpod⟩

theorem work_port {port : UInt16} (settled : work units u = .ok w)
    (asked : u.servicePort = some port) :
    port ≠ 0 ∧ ∃ service, unitOf? units .service = some service ∧
      w.service = some (service, port) := by
  rcases work_service settled with ⟨none, -⟩ | ⟨service, _, asked', nonzero, first, hservice⟩
  · cases asked.symm.trans none
  · cases asked.symm.trans asked'
    exact ⟨nonzero, service, first, hservice⟩

/-- Work is done on the first units of their kinds. -/
theorem work_first (settled : work units u = .ok w) :
    (∀ pod changes, w.pod = some (pod, changes) → unitOf? units .pod = some pod) ∧
      ∀ service port, w.service = some (service, port) →
        unitOf? units .service = some service := by
  constructor
  · intro pod changes hpod
    rcases work_pod settled with ⟨-, h⟩ | ⟨_, _, -, first, -, h⟩
    · cases hpod.symm.trans h
    · cases hpod.symm.trans h
      exact first
  · intro service port hservice
    rcases work_service settled with ⟨-, h⟩ | ⟨_, _, -, -, first, h⟩
    · cases hservice.symm.trans h
    · cases hservice.symm.trans h
      exact first

theorem work_kinds (settled : work units u = .ok w) :
    (∀ pod changes, w.pod = some (pod, changes) → pod.kind = .pod) ∧
      ∀ service port, w.service = some (service, port) → service.kind = .service := by
  obtain ⟨hpod, hservice⟩ := work_first settled
  exact ⟨fun pod changes h => unitOf?_kind (hpod pod changes h),
    fun service port h => unitOf?_kind (hservice service port h)⟩

theorem work_idle (empty : u.isEmpty = true) :
    work units u = .ok ⟨none, none⟩ := by
  obtain ⟨untouched, none⟩ := Bool.and_eq_true_iff.mp empty
  refine work_ok.mpr ⟨?_, ?_⟩
  · rw [podWork, if_neg (by simpa using untouched)]
  · rw [serviceWork, Option.isNone_iff_eq_none.mp none]

/-! ### Edits -/

/-- An edit that an update of some units asks for. -/
inductive Asked (units : List Ref) (u : SessionUpdate) : Edit → Prop
  | pod {pod : Ref} {changes : Table Json} (touches : u.touchesResources = true)
      (first : unitOf? units .pod = some pod) (checked : u.amountChanges = .ok changes) :
      Asked units u (podEdit pod changes u.gpu)
  | service {service : Ref} {port : UInt16} (asked : u.servicePort = some port)
      (first : unitOf? units .service = some service) : Asked units u (serviceEdit service port)
  | route {route : Ref} {port : UInt16} (asked : u.servicePort = some port)
      (first : unitOf? units .virtualService = some route) : Asked units u (routeEdit route port)

theorem mem_edits {gpu : Option UInt64} {edit : Edit} :
    edit ∈ edits units gpu w ↔
      (∃ pod changes, w.pod = some (pod, changes) ∧ edit = podEdit pod changes gpu) ∨
        ∃ service port, w.service = some (service, port) ∧ (edit = serviceEdit service port ∨
          ∃ route, unitOf? units .virtualService = some route ∧ edit = routeEdit route port) := by
  obtain ⟨pod, service⟩ := w
  rcases pod with _ | ⟨pod, changes⟩ <;> rcases service with _ | ⟨service, port⟩ <;>
    cases hroute : unitOf? units .virtualService <;> simp [edits, hroute]

/-- The edits of an update that is settled are those that it asks for. -/
theorem mem_edits_iff (settled : work units u = .ok w) {edit : Edit} :
    edit ∈ edits units u.gpu w ↔ Asked units u edit := by
  rw [mem_edits]
  constructor
  · rintro (⟨pod, changes, hpod, rfl⟩ | ⟨service, port, hservice, h⟩)
    · rcases work_pod settled with ⟨-, h⟩ | ⟨_, _, touches, first, checked, h⟩
      · cases hpod.symm.trans h
      · cases hpod.symm.trans h
        exact .pod touches first checked
    · rcases work_service settled with ⟨-, h'⟩ | ⟨_, _, asked, -, first, h'⟩
      · cases hservice.symm.trans h'
      · cases hservice.symm.trans h'
        rcases h with rfl | ⟨route, hroute, rfl⟩
        · exact .service asked first
        · exact .route asked hroute
  · intro asked
    cases asked with
    | pod touches first checked =>
      obtain ⟨pod, changes, first', checked', hpod⟩ := work_touches settled touches
      cases first.symm.trans first'
      cases checked.symm.trans checked'
      exact .inl ⟨_, _, hpod, rfl⟩
    | service asked first =>
      obtain ⟨-, service, first', hservice⟩ := work_port settled asked
      cases first.symm.trans first'
      exact .inr ⟨_, _, hservice, .inl rfl⟩
    | route asked first =>
      obtain ⟨-, service, -, hservice⟩ := work_port settled asked
      exact .inr ⟨_, _, hservice, .inr ⟨_, first, rfl⟩⟩

/-- The edits of an update have targets of different kinds. -/
theorem edits_apart (settled : work units u = .ok w) :
    (edits units u.gpu w).Pairwise fun edit other => edit.target.kind ≠ other.target.kind := by
  obtain ⟨hpod, hservice⟩ := work_kinds settled
  have hroute : ∀ route, unitOf? units .virtualService = some route →
      route.kind = .virtualService := fun route => unitOf?_kind
  obtain ⟨pod, service⟩ := w
  rcases pod with _ | ⟨pod, changes⟩ <;> rcases service with _ | ⟨service, port⟩ <;>
    rcases hunit : unitOf? units .virtualService with _ | route <;>
    simp_all [edits, podEdit, serviceEdit, routeEdit, Kind.pod, Kind.service, Kind.virtualService]

end ClusterProvisioning.Proofs
