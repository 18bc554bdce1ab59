import ClusterProvisioning.Proofs.CancelledApply
import ClusterProvisioning.Proofs.PlanBuild
import ClusterProvisioning.Proofs.PlanReplacement
import ClusterProvisioning.Proofs.SessionLife

/-!
# The address of a serving deployment

A serving deployment is reached at a node port that the cluster picks while it stores the service.
Provisioning reads the service back for it, so what it reports is the port of the very object that
it created, wherever the cluster was in handing out ports; the configured port is reported only if
the service cannot be read (`serving_reachable`).
-/

namespace ClusterProvisioning.Proofs
open Program MemoryCluster Plan

/-- Where the node port of the first port of a service stands. -/
def firstPortPath : List String := ["spec", "ports", "0", "nodePort"]

/-- The port of an address after a service was read. -/
def answeredPort (fallback : UInt16) : Except (Report GatewayError) Json → UInt16
  | .ok object => (Lifecycle.firstNodePort? object).getD fallback
  | .error _ => fallback

/-- The address for a stored service, given the answer to reading it. -/
inductive Reached (config : ServingConfig) (object : Json) :
    Except (Report GatewayError) Json → Option String → Prop
  | atNodePort {port : UInt16} (valid : port ≠ 0)
      (given : object.at? firstPortPath = some (.ofNat port.toNat)) :
      Reached config object (.ok object) (some s!"http://{config.externalAddress}:{port.toNat}")
  | atFallback {report : Report GatewayError} :
      Reached config object (.error report)
        (some s!"http://{config.externalAddress}:{config.httpPort.toNat}")

/-- What a run leaves and reports that created the service of a serving deployment and read it. -/
structure Exposed (config : ServingConfig) (c c' : MemoryCluster) (service : Ref) (object : Json)
    (read : Except (Report GatewayError) Json) (access : Option String) : Prop where
  stored : c'.object? service = some object
  /-- The node port is the next one in line when the run begins. -/
  port : object.at? firstPortPath = some (.ofNat (30000 + c.portsHandedOut.toNat))
  fails : (∃ report, read = .error report) ↔ c.faults.get? (.get, service.name) = some 0
  reached : Reached config object read access

/-! ### Addresses -/

/-- A service that is read is the one that is stored. -/
theorem Reached.read_cases {config : ServingConfig} {object : Json}
    {read : Except (Report GatewayError) Json} {access : Option String}
    (reached : Reached config object read access) :
    (∃ report, read = .error report) ∨ read = .ok object := by
  cases reached with
  | atNodePort _ _ => exact .inr rfl
  | atFallback => exact .inl ⟨_, rfl⟩

theorem course_access {cancel : Cancellation} {us : List PlanUnit} {events : List Event}
    {result : ApplyResult} (course : Course cancel us events result) : result.access = none := by
  obtain ⟨made, rest, done, tail, -, -, -, ending⟩ := course
  cases ending with
  | completed => rfl
  | cancelled _ => rfl
  | kept _ _ => rfl
  | rolledBack _ _ _ => rfl

/-- A workload of which not all units were created has no address. -/
theorem applyPlan_failure {plan : Plan} {cancel : Cancellation} {events : List Event}
    {result : ApplyResult} (h : Traces (Lifecycle.applyPlan plan cancel) events result)
    (failure : result.isSuccess = false) : result.access = none := by
  obtain ⟨base, applying, resolving, rfl, happly, hrest⟩ := (traces_bind _ _ _ _).mp h
  have course : Course cancel plan.units applying base := course_of_traces happly
  split at hrest
  next success =>
    obtain ⟨access, first, last, rfl, hresolve, hend⟩ := (traces_bind _ _ _ _).mp hrest
    obtain ⟨rfl, rfl⟩ := hend
    cases success.symm.trans failure
  next =>
    obtain ⟨rfl, rfl⟩ := hrest
    exact course_access course

/-- A workload at a node port is created as a whole, and then its service is read. -/
theorem applyPlan_nodePort {plan : Plan} {cancel : Cancellation} {events : List Event}
    {result : ApplyResult} {address : String} {service : Ref} {fallback : UInt16}
    (access : plan.access = some (.nodePort address service fallback))
    (h : Traces (Lifecycle.applyPlan plan cancel) events result)
    (success : result.isSuccess = true) :
    ∃ applying, ∃ read : Except (Report GatewayError) Json,
      events = applying ++ [.call (.get service) read] ∧ UnitsCreated plan.units applying ∧
        result.access = some s!"http://{address}:{(answeredPort fallback read).toNat}" := by
  obtain ⟨base, applying, resolving, rfl, happly, hrest⟩ := (traces_bind _ _ _ _).mp h
  have course : Course cancel plan.units applying base := course_of_traces happly
  split at hrest
  next hbase =>
    rw [access] at hrest
    obtain ⟨resolved, first, last, rfl, hresolve, hend⟩ := (traces_bind _ _ _ _).mp hrest
    obtain ⟨rfl, rfl⟩ := hend
    obtain ⟨read, rest, rfl, hread⟩ := (traces_perform_bind _ _ _ _).mp hresolve
    obtain ⟨rfl, rfl⟩ := hread
    refine ⟨applying, read, by rw [List.append_nil], unitsCreated_of_success course hbase, ?_⟩
    cases read with
    | ok object => rfl
    | error report => rfl
  next failure =>
    obtain ⟨rfl, rfl⟩ := hrest
    exact absurd success failure

theorem firstNodePort?_at {object : Json} {port : UInt16} (valid : port ≠ 0)
    (given : object.at? firstPortPath = some (.ofNat port.toNat)) :
    Lifecycle.firstNodePort? object = some port := by
  have hpos : 0 < port.toNat := by
    rw [Nat.pos_iff_ne_zero]
    intro zero
    exact valid (UInt16.toNat_inj.mp zero)
  have hread : (Json.ofNat port.toNat).nat? = some port.toNat := rfl
  unfold firstPortPath at given
  rw [Lifecycle.firstNodePort?, given, Option.bind_some, hread, Option.bind_some,
    if_pos ⟨hpos, port.toNat_lt⟩, UInt16.ofNat_toNat]

/-! ### Storing and reading back -/

/-- An object that stands on a cluster is read unless reading it is to fail. -/
theorem get_present {c d : MemoryCluster} {target : Ref} {object : Json}
    {read : Except (Report GatewayError) Json} (present : c.object? target = some object)
    (answer : c.get target = (read, d)) :
    c.faults.get? (.get, target.name) = some 0 ∧ (∃ report, read = .error report) ∨
      c.faults.get? (.get, target.name) ≠ some 0 ∧ read = .ok object := by
  have found : ∀ faults calls,
      ({ c with faults := faults, calls := calls } : MemoryCluster).object? target =
        some object := fun _ _ => present
  unfold MemoryCluster.get MemoryCluster.record at answer
  dsimp only at answer
  cases armed : c.faults.get? (.get, target.name) with
  | none =>
    rw [armed] at answer
    dsimp only at answer
    rw [found] at answer
    cases answer
    exact .inr ⟨nofun, rfl⟩
  | some successes =>
    rw [armed] at answer
    cases successes with
    | zero =>
      cases answer
      exact .inl ⟨rfl, _, rfl⟩
    | succ left =>
      dsimp only at answer
      rw [found] at answer
      cases answer
      exact .inr ⟨nofun, rfl⟩

/-- Creating units leaves the faults of reading as they are. -/
theorem created_reads {us : List PlanUnit} {events : List Event} {c c' : MemoryCluster}
    (created : UnitsCreated us events) (served : Serves gateway c events c') (name : String) :
    c'.faults.get? (.get, name) = c.faults.get? (.get, name) := by
  refine serves_preserves (fun d => d.faults.get? (.get, name) = c.faults.get? (.get, name))
    (fun call hcall d hd => (answer_faults_apart d ?_ name).trans hd) served rfl
  rw [(unitsCreated_calls created).2, List.mem_flatMap] at hcall
  obtain ⟨u, -, hunit⟩ := hcall
  simp only [unitCalls, List.mem_cons, List.not_mem_nil, or_false] at hunit
  rcases hunit with rfl | rfl
  · exact nofun
  · exact nofun

/-! ### Serving deployments -/

/-- The service of a serving deployment is stored with the next node port at its first port. -/
theorem service_firstPort (config : ServingConfig) (name ns : String) (labels : Table String)
    (used : UInt16) :
    (assignNodePorts used (Manifest.placedIn ns (Serving.service config name ns labels))).1.at?
      firstPortPath = some (.ofNat (nodePortAfter used)) :=
  rfl

/-- A deployment asks for no node ports. -/
theorem deployment_ports (config : ServingConfig) (request : WorkloadRequest)
    (image name ns : String) (resources : ContainerResources) (labels : Table String) :
    portsWanted [.of .deployment ns name
      (Serving.deployment config request image name ns resources labels)] = 0 :=
  rfl

theorem service_stored {config : ServingConfig} {name ns : String} {labels : Table String}
    {first : PlanUnit} {events : List Event} {c d : MemoryCluster}
    (created : UnitsCreated
      [first, .of .service ns name (Serving.service config name ns labels)] events)
    (form : PlanForm [first, .of .service ns name (Serving.service config name ns labels)])
    (portless : portsWanted [first] = 0) (served : Serves gateway c events d) :
    ∃ object, d.object? ⟨.service, ns, name⟩ = some object ∧
      object.at? firstPortPath = some (.ofNat (nodePortAfter c.portsHandedOut)) := by
  have hsplit : [first, .of .service ns name (Serving.service config name ns labels)] =
      [first] ++ .of .service ns name (Serving.service config name ns labels) :: [] := rfl
  have hstored := created_stored created hsplit form.named form.distinct served
  have hused : c.portsHandedOut + .ofNat (portsWanted [first]) = c.portsHandedOut := by
    rw [portless]
    exact UInt16.add_zero _
  rw [hused] at hstored
  exact ⟨_, hstored, service_firstPort config name ns labels c.portsHandedOut⟩

/-- The address follows from the stored service and from whether it could be read. -/
theorem reached_of_read {config : ServingConfig} {object : Json} {port : UInt16}
    {read : Except (Report GatewayError) Json} (valid : port ≠ 0)
    (given : object.at? firstPortPath = some (.ofNat port.toNat))
    (answered : (∃ report, read = .error report) ∨ read = .ok object) :
    Reached config object read (some
      s!"http://{config.externalAddress}:{(answeredPort config.httpPort read).toNat}") := by
  obtain ⟨report, rfl⟩ | rfl := answered
  · exact .atFallback
  · rw [answeredPort, firstNodePort?_at valid given]
    exact .atNodePort valid given

theorem exposed_of_applyPlan {config : ServingConfig} {request : WorkloadRequest} {plan : Plan}
    {cancel : Cancellation} {events : List Event} {result : ApplyResult} {c c' : MemoryCluster}
    (built : Serving.build config request = .ok plan) (form : PlanForm plan.units)
    (left : c.portsHandedOut.toNat < 35536)
    (carried : Traces (Lifecycle.applyPlan plan cancel) events result)
    (served : Serves gateway c events c') (success : result.isSuccess = true) :
    ∃ service object earlier, ∃ read : Except (Report GatewayError) Json,
      service.kind = .service ∧ plan.refs = [⟨.deployment, service.ns, service.name⟩, service] ∧
      plan.access = some (.nodePort config.externalAddress service config.httpPort) ∧
      events = earlier ++ [.call (.get service) read] ∧
      Exposed config c c' service object read result.access := by
  obtain ⟨image, resources, name, -, -, -, rfl⟩ := serving_build_ok.mp built
  obtain ⟨applying, read, rfl, created, haccess⟩ := applyPlan_nodePort rfl carried success
  obtain ⟨d, happlied, e, hget, rfl⟩ := (serves_append _ _ _ _ _).mp served
  change d.get ⟨.service, resolveNamespace request config.ns, name⟩ = (read, c') at hget
  obtain ⟨object, hstored, hport⟩ := service_stored created form (deployment_ports ..) happlied
  let port : UInt16 := .ofNat (nodePortAfter c.portsHandedOut)
  have hnumber : port.toNat = nodePortAfter c.portsHandedOut := by
    rw [UInt16.toNat_ofNat', nodePortAfter_eq]
    omega
  have valid : port ≠ 0 := by
    intro zero
    rw [zero, UInt16.toNat_zero, nodePortAfter_eq] at hnumber
    omega
  rw [← hnumber] at hport
  have hread := get_present hstored hget
  rw [created_reads created happlied] at hread
  refine ⟨_, object, applying, read, rfl, rfl, rfl, rfl, ?_, ?_, ?_, ?_⟩
  · have hobjects := get_objects d ⟨.service, resolveNamespace request config.ns, name⟩
    rw [hget] at hobjects
    unfold MemoryCluster.object?
    rw [hobjects]
    exact hstored
  · rw [hport, hnumber]
    rfl
  · obtain ⟨armed, failed⟩ | ⟨unarmed, rfl⟩ := hread
    · exact ⟨fun _ => armed, fun _ => failed⟩
    · exact ⟨nofun, fun armed => absurd armed unarmed⟩
  · rw [haccess]
    exact reached_of_read valid hport (hread.imp And.right And.right)

/-- Whatever is provisioned, and wherever, has no address if something failed. A serving deployment
that is created on a cluster in memory, whatever stands there, is reported at the node port that its
service has on the cluster; the configured port is reported instead if, and only if, the service
cannot be read. -/
theorem serving_reachable (config : Config) (request : WorkloadRequest) (suffix : String)
    (cancel : Cancellation) :
    (∀ (σ : Type) (g : Gateway σ) (s s' : σ) (result : ApplyResult) (events : List Event),
      (Lifecycle.provision config request suffix cancel).run g s =
        (.ok (.applied result), s', events) →
      result.isSuccess = false → result.access = none) ∧
    (request.kind = .servingDeployment →
      ∀ (c c' : MemoryCluster) (result : ApplyResult) (events : List Event),
        c.portsHandedOut.toNat < 35536 →
        (Lifecycle.provision config request suffix cancel).run gateway c =
          (.ok (.applied result), c', events) →
        result.isSuccess = true →
        ∃ plan service object earlier, ∃ read : Except (Report GatewayError) Json,
          Plan.build config request suffix = .ok plan ∧ service.kind = .service ∧
          plan.refs = [⟨.deployment, service.ns, service.name⟩, service] ∧
          plan.access = some
            (.nodePort config.serving.externalAddress service config.serving.httpPort) ∧
          events = earlier ++ [.call (.get service) read] ∧
          Exposed config.serving c c' service object read result.access) := by
  constructor
  · intro σ g s s' result events provisioned failure
    cases course_of_provision ((run_eq_iff _ _ _ _ _ _).mp provisioned).1 with
    | applied built sized checked carried => exact applyPlan_failure carried failure
  · intro kind c c' result events left provisioned success
    obtain ⟨traced, served⟩ := (run_eq_iff _ _ _ _ _ _).mp provisioned
    cases course_of_provision traced with
    | @applied plan footprint checks tail result built sized checked carried =>
      obtain ⟨d, hchecks, htail⟩ := (serves_append _ _ _ _ _).mp served
      -- The check leaves the cluster as it is, but for the log.
      obtain ⟨calls, rfl⟩ := serves_lists hchecks (check_lists checked)
      have hleft : ({ c with calls := calls } : MemoryCluster).portsHandedOut.toNat < 35536 := left
      have hbuilt := mapError_ok.mp built
      rw [kind] at hbuilt
      obtain ⟨service, object, earlier, read, hkind, hrefs, haccess, rfl, exposed⟩ :=
        exposed_of_applyPlan hbuilt (planForm_of_build built) hleft carried htail success
      refine ⟨plan, service, object, checks ++ earlier, read, built, hkind, hrefs, haccess, ?_, ?_⟩
      · rw [List.append_assoc]
      · exact ⟨exposed.stored, exposed.port, exposed.fails, exposed.reached⟩

/-- A model server with the resources that are configured. -/
def modelRequest : WorkloadRequest :=
  { claimingRequest with kind := .servingDeployment, name := "Sentiment Model", labels := [] }

/-- A cluster that has handed out some node ports. -/
def usedCluster : MemoryCluster :=
  { roomyCluster with portsHandedOut := 7 }

theorem modelRequest_provisions :
    succeeded ((Lifecycle.provision .standard modelRequest "1a2b3" .never).run gateway
      usedCluster).1 = true := by
  decide +kernel

theorem serving_reachable_model :
    modelRequest.kind = .servingDeployment ∧ usedCluster.portsHandedOut.toNat < 35536 ∧
      ∃ c' events result service object,
        (Lifecycle.provision .standard modelRequest "1a2b3" .never).run gateway usedCluster =
          (.ok (.applied result), c', events) ∧
        result.isSuccess = true ∧
        Exposed Config.standard.serving usedCluster c' service object (.ok object)
          result.access := by
  have left : usedCluster.portsHandedOut.toNat < 35536 := by decide
  have provisions := modelRequest_provisions
  rcases h : (Lifecycle.provision .standard modelRequest "1a2b3" .never).run gateway usedCluster
    with ⟨outcome, c', events⟩
  rw [h] at provisions
  obtain ⟨result, rfl⟩ : ∃ result, outcome = .ok (.applied result) := by
    match outcome, provisions with
    | .ok (.applied result), _ => exact ⟨result, rfl⟩
  obtain ⟨plan, service, object, earlier, read, -, -, -, -, -, exposed⟩ :=
    (serving_reachable .standard modelRequest "1a2b3" .never).2 rfl usedCluster c' result events
      left h provisions
  have readable : ¬∃ report, read = .error report := by
    intro failed
    cases exposed.fails.mp failed
  obtain rfl := exposed.reached.read_cases.resolve_left readable
  exact ⟨rfl, left, c', events, result, service, object, rfl, provisions, exposed⟩

end ClusterProvisioning.Proofs
