import ClusterProvisioning.Proofs.JsonPaths
import ClusterProvisioning.Proofs.PlanBuild
import Mathlib.Data.List.DropRight

/-!
# The containers of a plan

Admission is asked for amounts, and the containers of a plan carry texts. Both come from one
request and one configuration: whatever kind of workload is built, every container of every unit
asks for exactly the amounts that were admitted (`build_asks_footprint`).
-/

namespace ClusterProvisioning.Proofs
open Plan

/-- The specifications of pods in a manifest: its own, that of its template, and those of the
templates of its groups of replicas. -/
def podSpecs (manifest : Json) : List Json :=
  (manifest.at? ["spec"]).toList ++ (manifest.at? ["spec", "template", "spec"]).toList ++
    (((manifest.at? ["spec", "pytorchReplicaSpecs"]).bind Json.members?).getD []).filterMap
      fun group => group.2.at? ["template", "spec"]

/-- The containers of a specification of pods. -/
def podContainers (spec : Json) : List Json :=
  ((spec.at? ["containers"]).bind Json.items?).getD []

/-- The containers of all units of a plan. -/
def planContainers (plan : Plan) : List Json :=
  plan.units.flatMap fun u => (podSpecs u.manifest).flatMap podContainers

/-- The container has one block of amounts, as its limits and as its requests, that reads as the
given amounts. GPUs stand there only when there are some. -/
def Asks (amount : Resources) (container : Json) : Prop :=
  ∃ block cpu memory,
    container.at? ["resources", "limits"] = some block ∧
    container.at? ["resources", "requests"] = some block ∧
    block.at? ["cpu"] = some (.string cpu) ∧ Quantity.cpuMillis cpu = .ok amount.cpuMillis ∧
    block.at? ["memory"] = some (.string memory) ∧
    Quantity.memoryBytes memory = .ok amount.memoryBytes ∧
    block.at? [gpuResource] =
      if amount.gpus = 0 then none else some (.string (toString amount.gpus.toNat))

/-! ### Trimmed quantities -/

theorem trimChars_prefix (cs : List Char) : Text.trimChars cs <+: cs.dropWhile Text.isBlank :=
  List.rdropWhile_prefix Text.isBlank (cs.dropWhile Text.isBlank)

theorem dropWhile_trimChars (cs : List Char) :
    (Text.trimChars cs).dropWhile Text.isBlank = Text.trimChars cs := by
  cases h : Text.trimChars cs with
  | nil => rfl
  | cons c rest =>
    obtain ⟨tail, htail⟩ := h ▸ trimChars_prefix cs
    have hne : cs.dropWhile Text.isBlank ≠ [] := by
      rw [← htail]
      exact List.cons_ne_nil _ _
    have hhead : Text.isBlank ((cs.dropWhile Text.isBlank).head hne) = false :=
      List.head_dropWhile_not Text.isBlank hne
    simp only [← htail, List.cons_append, List.head_cons] at hhead
    exact List.dropWhile_cons_of_neg (by rw [hhead]; exact Bool.false_ne_true)

theorem trimChars_trimChars (cs : List Char) :
    Text.trimChars (Text.trimChars cs) = Text.trimChars cs := by
  change List.rdropWhile Text.isBlank ((Text.trimChars cs).dropWhile Text.isBlank) = _
  rw [dropWhile_trimChars]
  exact List.rdropWhile_idempotent Text.isBlank (cs.dropWhile Text.isBlank)

/-- A quantity is read without the blank characters around it. -/
theorem scaled_trim (s : String) :
    Quantity.scaled (Text.trim s).toList = Quantity.scaled s.toList := by
  unfold Quantity.scaled Text.trim
  rw [String.toList_ofList, trimChars_trimChars]

theorem blame_ok {α : Type} {input : String} {r : Except QuantityFault α} {a : α} :
    Quantity.blame input r = .ok a ↔ r = .ok a :=
  mapError_ok

theorem cpuMillis_trim {s : String} {n : UInt64} :
    Quantity.cpuMillis (Text.trim s) = .ok n ↔ Quantity.cpuMillis s = .ok n := by
  unfold Quantity.cpuMillis
  rw [blame_ok, blame_ok, scaled_trim]

theorem memoryBytes_trim {s : String} {n : UInt64} :
    Quantity.memoryBytes (Text.trim s) = .ok n ↔ Quantity.memoryBytes s = .ok n := by
  unfold Quantity.memoryBytes
  rw [blame_ok, blame_ok, scaled_trim]

/-! ### Resolved resources -/

theorem requestedCpu_ok {text : String} {n : UInt64} :
    ContainerResources.requestedCpu text = .ok n ↔ Quantity.cpuMillis text = .ok n :=
  mapError_ok

theorem requestedMemory_ok {text : String} {n : UInt64} :
    ContainerResources.requestedMemory text = .ok n ↔ Quantity.memoryBytes text = .ok n :=
  mapError_ok

/-- The texts of resolved resources read as their amount. -/
theorem resolve_reads {request : WorkloadRequest} {cpu memory : String}
    {resources : ContainerResources}
    (resolved : ContainerResources.resolve request cpu memory = .ok resources) :
    Quantity.cpuMillis resources.cpu = .ok resources.amount.cpuMillis ∧
      Quantity.memoryBytes resources.memory = .ok resources.amount.memoryBytes ∧
      resources.amount.gpus = resources.gpu := by
  unfold ContainerResources.resolve at resolved
  simp only [outcome_bind_ok] at resolved
  obtain ⟨cpuMillis, hcpu, memoryBytes, hmemory, h⟩ := resolved
  cases h
  exact ⟨cpuMillis_trim.mpr (requestedCpu_ok.mp hcpu),
    memoryBytes_trim.mpr (requestedMemory_ok.mp hmemory), rfl⟩

theorem amounts_gpu (resources : ContainerResources) :
    resources.amounts.at? [gpuResource] =
      if resources.gpu = 0 then none else some (.string (toString resources.gpu.toNat)) := by
  unfold ContainerResources.amounts
  split <;> rfl

/-- A container with the manifest of resolved resources asks for their amount. -/
theorem asks_of_resolve {request : WorkloadRequest} {cpu memory : String}
    {resources : ContainerResources} {container : Json}
    (resolved : ContainerResources.resolve request cpu memory = .ok resources)
    (block : container.at? ["resources"] = some resources.manifest) :
    Asks resources.amount container := by
  obtain ⟨hcpu, hmemory, hgpu⟩ := resolve_reads resolved
  have below : ∀ name, container.at? ["resources", name] = resources.manifest.at? [name] := by
    intro name
    change container.at? (["resources"] ++ [name]) = _
    rw [at?_append, block, Option.bind_some]
  refine ⟨resources.amounts, resources.cpu, resources.memory, ?_, ?_, rfl, hcpu, rfl, hmemory, ?_⟩
  · exact below "limits"
  · exact below "requests"
  · rw [hgpu]
    exact amounts_gpu resources

/-! ### Containers by kind -/

theorem planContainers_assemble (config : SessionConfig) (request : WorkloadRequest)
    (image : String) (resources : ContainerResources) (id : Session.Identity) :
    planContainers (Session.assemble config request image resources id) =
      [Session.container config request image resources id] := by
  unfold planContainers Session.assemble Session.pod
  cases config.imagePullSecret <;> cases config.schedulerName <;> rfl

theorem session_asks {config : SessionConfig} {request : WorkloadRequest} {suffix : String}
    {plan : Plan} (built : Session.build config request suffix = .ok plan) :
    ∃ resources, ContainerResources.resolve request config.cpu config.memory = .ok resources ∧
      planContainers plan ≠ [] ∧ ∀ c ∈ planContainers plan, Asks resources.amount c := by
  obtain ⟨image, resources, owner, -, hresources, -, -, rfl⟩ := session_build_ok.mp built
  refine ⟨resources, hresources, ?_⟩
  rw [planContainers_assemble]
  refine ⟨List.cons_ne_nil _ _, fun container hcontainer => ?_⟩
  obtain rfl := List.mem_singleton.mp hcontainer
  exact asks_of_resolve hresources rfl

theorem serving_asks {config : ServingConfig} {request : WorkloadRequest} {plan : Plan}
    (built : Serving.build config request = .ok plan) :
    ∃ resources, ContainerResources.resolve request config.cpu config.memory = .ok resources ∧
      planContainers plan ≠ [] ∧ ∀ c ∈ planContainers plan, Asks resources.amount c := by
  obtain ⟨image, resources, name, -, hresources, -, rfl⟩ := serving_build_ok.mp built
  refine ⟨resources, hresources, List.cons_ne_nil _ _, fun container hcontainer => ?_⟩
  obtain rfl : container = Serving.container config request image name resources :=
    List.mem_singleton.mp hcontainer
  exact asks_of_resolve hresources rfl

/-- The two groups of replicas have containers of their own, of the same size. -/
theorem training_asks {config : TrainingConfig} {request : WorkloadRequest} {plan : Plan}
    (built : Training.build config request = .ok plan) :
    ∃ resources, ContainerResources.resolve request config.cpu config.memory = .ok resources ∧
      planContainers plan ≠ [] ∧ ∀ c ∈ planContainers plan, Asks resources.amount c := by
  obtain ⟨image, resources, name, labels, -, hresources, -, -, rfl⟩ := training_build_ok.mp built
  refine ⟨resources, hresources, List.cons_ne_nil _ _, fun container hcontainer => ?_⟩
  have hreplicas : container ∈ [Training.container config request image resources,
      Training.container config request image resources] := hcontainer
  obtain rfl : container = Training.container config request image resources := by
    simpa using hreplicas
  refine asks_of_resolve hresources ?_
  unfold Training.container
  split <;> split <;> rfl

/-! ### Admitted and created -/

/-- Whatever plan is built, the resources that admission asks for are settled, and every container
of every unit asks for exactly these. A request whose resources are refused is not built. -/
theorem build_asks_footprint (config : Config) (request : WorkloadRequest) (suffix : String) :
    (∀ plan, Plan.build config request suffix = .ok plan →
      ∃ amount, Plan.footprint config request = .ok amount ∧ planContainers plan ≠ [] ∧
        ∀ container ∈ planContainers plan, Asks amount container) ∧
    ∀ report, Plan.footprint config request = .error report →
      ∃ refusal, Plan.build config request suffix = .error refusal := by
  have asks : ∀ plan, Plan.build config request suffix = .ok plan →
      ∃ amount, Plan.footprint config request = .ok amount ∧ planContainers plan ≠ [] ∧
        ∀ container ∈ planContainers plan, Asks amount container := by
    intro plan built
    have hbuilt := mapError_ok.mp built
    unfold Plan.footprint
    cases hkind : request.kind with
    | session =>
      rw [hkind] at hbuilt
      obtain ⟨resources, hresources, hasks⟩ := session_asks hbuilt
      exact ⟨resources.amount, congrArg (Except.map _) hresources, hasks⟩
    | servingDeployment =>
      rw [hkind] at hbuilt
      obtain ⟨resources, hresources, hasks⟩ := serving_asks hbuilt
      exact ⟨resources.amount, congrArg (Except.map _) hresources, hasks⟩
    | trainingJob =>
      rw [hkind] at hbuilt
      obtain ⟨resources, hresources, hasks⟩ := training_asks hbuilt
      exact ⟨resources.amount, congrArg (Except.map _) hresources, hasks⟩
  refine ⟨asks, fun report refused => ?_⟩
  cases built : Plan.build config request suffix with
  | error refusal => exact ⟨refusal, rfl⟩
  | ok plan =>
    obtain ⟨amount, sized, -⟩ := asks plan built
    cases refused.symm.trans sized

/-- The blank characters around a requested amount of cpu are in neither. -/
theorem build_asks_footprint_trimmed :
    ∃ plan, Plan.build .standard claimingRequest "1a2b3" = .ok plan ∧
      Plan.footprint .standard claimingRequest = .ok ⟨500, 2147483648, 1⟩ ∧
      planContainers plan ≠ [] ∧
      ∀ container ∈ planContainers plan, Asks ⟨500, 2147483648, 1⟩ container := by
  have sized : Plan.footprint .standard claimingRequest = .ok ⟨500, 2147483648, 1⟩ := by
    decide +kernel
  obtain ⟨plan, built⟩ := claimingRequest_builds
  obtain ⟨amount, hamount, asks⟩ :=
    (build_asks_footprint .standard claimingRequest "1a2b3").1 plan built
  cases sized.symm.trans hamount
  exact ⟨plan, built, sized, asks⟩

end ClusterProvisioning.Proofs
