import ClusterProvisioning.Proofs.DocumentReading
import ClusterProvisioning.Proofs.InventoryAgreement
import ClusterProvisioning.Proofs.NameLabels
import ClusterProvisioning.Proofs.NullMembers
import ClusterProvisioning.Proofs.QuantityGrammar
import ClusterProvisioning.Proofs.WholeNumbers

/-!
# GPU counts in manifests

A manifest writes a count of GPUs with all its digits, and the inventory reads it as a number in
binary floating point. So a count is read back if its significand has at most 53 bits, and the pod
is then accounted for with exactly what was admitted. Any other count is read as the nearest of
these, unless that is `2 ^ 64`, which is refused (`gpu_counts_read_back`).
-/

namespace ClusterProvisioning.Proofs
open Plan Binary64

/-! ### Written numbers -/

theorem toString_chars (n : Nat) :
    Digits (toString n).toList ∧ (toString n).toList ≠ [] ∧
      Text.digitsValue (toString n).toList = n := by
  have chars : (toString n).toList = Nat.toDigits 10 n := Nat.toList_repr
  obtain ⟨digits, filled, value⟩ := readDigits_some.mp (readDigits_toDigits n)
  rw [chars]
  exact ⟨digits, filled, value.symm⟩

theorem trimChars_digits {cs : List Char} (h : Digits cs) : Text.trimChars cs = cs := by
  refine trimChars_of_nameChars fun c hc => .inl ?_
  rw [Text.isLabelChar, h c hc, Bool.or_true]

theorem decimal_digits {cs : List Char} (h : Digits cs) (filled : cs ≠ []) :
    Quantity.decimal cs = .ok ⟨false, Text.digitsValue cs, 1⟩ := by
  have hsign : Quantity.signOf cs = (false, cs) := signOf_number .absent (.whole h filled)
  have htake : cs.takeWhile Char.isDigit = cs := by simpa using (digits_after h []).1
  have hdrop : cs.dropWhile Char.isDigit = [] := by simpa using (digits_after h []).2
  have hne : cs.isEmpty = false := List.isEmpty_eq_false_iff.mpr filled
  have hnone : Quantity.fraction? [] = some [] := rfl
  unfold Quantity.decimal
  rw [hsign]
  dsimp only
  rw [htake, hdrop, hnone]
  dsimp only
  rw [List.append_nil, hne]
  rfl

theorem multiplier?_nil : Quantity.multiplier? [] = some (.ofNat 1) := rfl

/-- Digits without a point or a suffix stand for the number that they write, rounded once. -/
theorem scaled_digits {cs : List Char} (h : Digits cs) (filled : cs ≠ []) {e : Nat}
    (hle : Text.digitsValue cs ≤ 2 ^ e) (he : e < 1024) :
    Quantity.scaled cs = .ok (.finite (nearestWhole (Text.digitsValue cs) * one)) := by
  have htrim := trimChars_digits h
  have hnumeric : ∀ c ∈ cs, Quantity.isNumeric c = true := fun c hc => by
    simp [Quantity.isNumeric, h c hc]
  have htake : cs.takeWhile Quantity.isNumeric = cs := List.takeWhile_eq_self_iff.mpr hnumeric
  have hdrop : cs.dropWhile Quantity.isNumeric = [] := List.dropWhile_eq_nil_iff.mpr hnumeric
  have hvalue : ofRatio (Text.digitsValue cs) 1 =
      .finite (nearestWhole (Text.digitsValue cs) * one) := ofNat_whole hle he
  have hfits : Fits 53 (nearestWhole (Text.digitsValue cs) * one) :=
    fits_steps (nearest_nearestWhole _).fits
  rw [scaled_filled (by rwa [htrim]), htrim]
  unfold Quantity.scaledChars
  dsimp only
  rw [htake, hdrop, decimal_digits h filled]
  refine outcome_bind_ok.mpr ⟨_, rfl, ?_⟩
  dsimp only
  rw [hvalue, multiplier?_nil]
  dsimp only
  -- The factor of the empty suffix is one, so the number is rounded only when it is read.
  rw [finite_mul_one hfits (nearestWhole_steps_lt_limit hle he)]
  rfl

theorem isNegligible_zero : Quantity.isNegligible 0 = true := by decide +kernel

/-- A whole number of steps of one is that number of units, if it has 64 bits. -/
theorem toUnits_whole (n : Nat) :
    Quantity.toUnits (.finite (n * one)) =
      if 2 ^ 64 ≤ n then .error .outOfRange else .ok (.ofNat n) := by
  have hsize : UInt64.size * one ≤ n * one ↔ 2 ^ 64 ≤ n := Nat.mul_le_mul_right_iff steps_one_pos
  have hnearest : (n * one + one / 2) / one = n := by
    rw [Nat.mul_comm, Nat.mul_add_div steps_one_pos, Nat.div_eq_of_lt (Nat.div_lt_self steps_one_pos (by decide)),
      Nat.add_zero]
  unfold Quantity.toUnits
  dsimp only
  by_cases large : 2 ^ 64 ≤ n
  · rw [if_pos (hsize.mpr large), if_pos large]
    rfl
  · rw [if_neg (mt hsize.mp large), if_neg large, hnearest, Nat.sub_self, isNegligible_zero]
    rfl

theorem count_of_scaled {s : String} {value : Binary64} (h : Quantity.scaled s.toList = .ok value)
    (whole : value.isWhole = true) :
    Quantity.count s = Quantity.blame s (Quantity.toUnits value) := by
  unfold Quantity.count
  rw [h]
  change Quantity.blame s (if !value.isWhole then _ else Quantity.toUnits value) = _
  rw [whole]
  rfl

/-- A count that is written and read again is the nearest number of the format, unless that is
`2 ^ 64`. -/
theorem count_toString (g : UInt64) :
    Quantity.count (toString g.toNat) =
      if 2 ^ 64 - 1024 ≤ g.toNat then .error ⟨toString g.toNat, .outOfRange⟩
      else .ok (.ofNat (nearestWhole g.toNat)) := by
  obtain ⟨digits, filled, value⟩ := toString_chars g.toNat
  have hlt : g.toNat < 2 ^ 64 := g.toNat_lt
  have hle : Text.digitsValue (toString g.toNat).toList ≤ 2 ^ 64 := by omega
  have hscaled := scaled_digits digits filled hle (by decide)
  have hwhole : (Binary64.finite (nearestWhole g.toNat * one)).isWhole = true := by
    simp [isWhole]
  rw [value] at hscaled
  rw [count_of_scaled hscaled hwhole, toUnits_whole]
  by_cases large : 2 ^ 64 - 1024 ≤ g.toNat
  · rw [if_pos large, if_pos ((two_pow_64_le_nearestWhole hlt).mpr large)]
    rfl
  · rw [if_neg large, if_neg (mt (two_pow_64_le_nearestWhole hlt).mp large)]
    rfl

/-- What a written count is read as. -/
structure ReadBack (g : UInt64) (read : Except QuantityError UInt64) : Prop where
  small : g.toNat ≤ 2 ^ 53 → read = .ok g
  exact : read = .ok g ↔ Fits 53 g.toNat
  nearest : ∀ {value}, read = .ok value → Nearest g.toNat value.toNat
  close : ∀ {value}, read = .ok value → 2 ^ 53 * Nat.dist value.toNat g.toNat ≤ g.toNat
  refused : ∀ {e}, read = .error e ↔
    2 ^ 64 - 1024 ≤ g.toNat ∧ e = ⟨toString g.toNat, .outOfRange⟩

theorem readBack_count (g : UInt64) : ReadBack g (Quantity.count (toString g.toNat)) := by
  have hlt : g.toNat < 2 ^ 64 := g.toNat_lt
  have hnearest := nearest_nearestWhole g.toNat
  have hclose := dist_nearestWhole g.toNat
  have hexact := nearestWhole_eq_iff g.toNat
  have hround := two_pow_64_le_nearestWhole hlt
  have hread := count_toString g
  generalize Quantity.count (toString g.toNat) = read at hread
  generalize nearestWhole g.toNat = nearest at *
  have exact : read = .ok g ↔ Fits 53 g.toNat := by
    rw [hread, ← hexact]
    split
    next large =>
      have hne : nearest ≠ g.toNat := by
        have := hround.mpr large
        omega
      exact iff_of_false (fun h => nomatch h) hne
    next small =>
      have hfits : nearest < UInt64.size := not_le.mp (mt hround.mp small)
      rw [Except.ok.injEq, ← UInt64.toNat_inj, UInt64.toNat_ofNat_of_lt' hfits]
  have value : ∀ {value}, read = .ok value → value.toNat = nearest := by
    intro value h
    rw [hread] at h
    split at h
    next => cases h
    next small =>
      cases h
      exact UInt64.toNat_ofNat_of_lt' (not_le.mp (mt hround.mp small))
  have refused : ∀ {e}, read = .error e ↔
      2 ^ 64 - 1024 ≤ g.toNat ∧ e = ⟨toString g.toNat, .outOfRange⟩ := by
    intro e
    rw [hread]
    split
    next large => exact ⟨fun h => ⟨large, (Except.error.inj h).symm⟩, fun h => by rw [h.2]⟩
    next small => exact iff_of_false (fun h => nomatch h) fun h => small h.1
  exact {
    small := fun h => exact.mpr (fits_small h)
    exact := exact
    nearest := fun h => by rwa [value h]
    close := fun h => by rwa [value h]
    refused := refused }

/-! ### Pods -/

/-- The report of a quantity that the inventory cannot read. -/
def unreadable (e : QuantityError) : Report GatewayError :=
  .above (.invalidObject "unparseable resource quantity") (.of e)

theorem amount_of_text {table : Json} {resource text : String}
    (plain : Json.position? resource = none)
    (h : table.at? [resource] = some (.string text))
    (read : String → Except QuantityError UInt64) :
    Inventory.amount table resource read = (read text).mapError unreadable := by
  unfold Inventory.amount
  rw [member?_of_at? plain h]
  rfl

/-- The requests of a container that asks for some GPUs are read as what it asks for, but for the
count, which is what the text of the count is read as. -/
theorem resources_of_asks {amount : Resources} {container : Json} (asks : Asks amount container)
    (wanted : amount.gpus ≠ 0) :
    ∃ table, container.at? ["resources", "requests"] = some table ∧
      Inventory.resources table =
        ((Quantity.count (toString amount.gpus.toNat)).mapError unreadable).map
          fun gpus => { amount with gpus := gpus } := by
  obtain ⟨table, cpu, memory, -, hrequests, hcpu, hcpuRead, hmemory, hmemoryRead, hgpus⟩ := asks
  rw [if_neg wanted] at hgpus
  refine ⟨table, hrequests, ?_⟩
  unfold Inventory.resources
  rw [amount_of_text (by decide) hcpu, amount_of_text (by decide) hmemory,
    amount_of_text (by decide) hgpus, hcpuRead, hmemoryRead]
  cases Quantity.count (toString amount.gpus.toNat) <;> rfl

/-- The limits and the requests of a container that asks for some GPUs have the digits of their
number. -/
theorem gpuText_of_asks {amount : Resources} {container : Json} (asks : Asks amount container)
    (wanted : amount.gpus ≠ 0) :
    ∀ block ∈ ["limits", "requests"], container.at? ["resources", block, gpuResource] =
      some (.string (toString amount.gpus.toNat)) := by
  obtain ⟨table, -, -, hlimits, hrequests, -, -, -, -, hgpus⟩ := asks
  rw [if_neg wanted] at hgpus
  have below : ∀ block, container.at? ["resources", block] = some table →
      container.at? ["resources", block, gpuResource] =
        some (.string (toString amount.gpus.toNat)) := by
    intro block hblock
    change container.at? (["resources", block] ++ [gpuResource]) = _
    rw [at?_append, hblock, Option.bind_some, hgpus]
  simpa using ⟨below "limits" hlimits, below "requests" hrequests⟩

/-- The note that names a container in a report about its pod. -/
def containerNote (pod container : Json) : String :=
  let podName := Inventory.textAt pod ["metadata", "name"]
  let name := Inventory.textAt container ["name"]
  s!"pod {podName} container {name}"

/-- How the inventory accounts for a pod with one container that asks for an amount, by what its
count of GPUs is read as. -/
structure PodCounted (pod container : Json) (amount : Resources)
    (read : Except QuantityError UInt64) : Prop where
  alone : Inventory.itemsAt pod ["spec", "containers"] = [container]
  counted : ∀ {value}, read = .ok value → ∀ node,
    Inventory.podFootprint node pod = .ok ⟨node, { amount with gpus := value }⟩
  refused : ∀ {e}, read = .error e → ∀ node,
    Inventory.podFootprint node pod =
      .error ((unreadable e).withNote (containerNote pod container))

theorem podFootprint_alone {pod container table : Json}
    (alone : Inventory.itemsAt pod ["spec", "containers"] = [container])
    (requests : container.at? ["resources", "requests"] = some table) (node : String) :
    Inventory.podFootprint node pod =
      ((Inventory.resources table).mapError fun r => r.withNote (containerNote pod container)).map
        fun requested => ⟨node, requested⟩ := by
  unfold Inventory.podFootprint
  dsimp only
  rw [alone, List.foldlM_cons, Inventory.addContainer, requests]
  dsimp only
  cases Inventory.resources table with
  | error report => rfl
  | ok requested =>
    change Except.ok (⟨node, Resources.zero + requested⟩ : PodFootprint) = _
    rw [Resources.zero_add]
    rfl

theorem podCounted_of_asks {amount : Resources} {pod container : Json}
    (alone : Inventory.itemsAt pod ["spec", "containers"] = [container])
    (asks : Asks amount container) (wanted : amount.gpus ≠ 0) :
    PodCounted pod container amount (Quantity.count (toString amount.gpus.toNat)) := by
  obtain ⟨table, hrequests, hresources⟩ := resources_of_asks asks wanted
  have hfootprint := podFootprint_alone alone hrequests
  rw [hresources] at hfootprint
  refine ⟨alone, fun h node => ?_, fun h node => ?_⟩
  · rw [hfootprint, h]
    rfl
  · rw [hfootprint, h]
    rfl

/-! ### Plans -/

/-- A pod that runs the containers of a pod specification of the plan. -/
def RunsFor (plan : Plan) (pod : Json) : Prop :=
  ∃ u ∈ plan.units, ∃ spec ∈ podSpecs u.manifest, podContainers spec ≠ [] ∧
    Inventory.itemsAt pod ["spec", "containers"] = podContainers spec

theorem mem_planContainers {plan : Plan} {u : PlanUnit} {spec container : Json}
    (hu : u ∈ plan.units) (hspec : spec ∈ podSpecs u.manifest)
    (hcontainer : container ∈ podContainers spec) : container ∈ planContainers plan :=
  List.mem_flatMap.mpr ⟨u, hu, List.mem_flatMap.mpr ⟨spec, hspec, hcontainer⟩⟩

/-- A plan with containers has pods. -/
theorem exists_runsFor {plan : Plan} (filled : planContainers plan ≠ []) :
    ∃ pod, RunsFor plan pod := by
  obtain ⟨container, hcontainer⟩ := List.exists_mem_of_ne_nil _ filled
  obtain ⟨u, hu, hcontainer⟩ := List.mem_flatMap.mp hcontainer
  obtain ⟨spec, hspec, hcontainer⟩ := List.mem_flatMap.mp hcontainer
  exact ⟨.object [("spec", spec)], u, hu, spec, hspec, List.ne_nil_of_mem hcontainer, rfl⟩

/-- The pods of a plan run one container each. -/
def OnePerPod (plan : Plan) : Prop :=
  ∀ u ∈ plan.units, ∀ spec ∈ podSpecs u.manifest, (podContainers spec).length ≤ 1

theorem onePerPod_of_single {plan : Plan} {container : Json}
    (single : planContainers plan = [container]) : OnePerPod plan := by
  intro u hu spec hspec
  have inner : (podContainers spec).Sublist ((podSpecs u.manifest).flatMap podContainers) :=
    List.sublist_flatten_of_mem (List.mem_map_of_mem hspec)
  have outer : ((podSpecs u.manifest).flatMap podContainers).Sublist (planContainers plan) :=
    List.sublist_flatten_of_mem (List.mem_map_of_mem hu)
  rw [single] at outer
  exact (inner.trans outer).length_le

theorem onePerPod_training {config : TrainingConfig} {request : WorkloadRequest} {plan : Plan}
    (built : Training.build config request = .ok plan) : OnePerPod plan := by
  obtain ⟨image, resources, name, labels, -, -, -, -, rfl⟩ := training_build_ok.mp built
  intro u hu spec hspec
  obtain rfl := List.mem_singleton.mp hu
  have specs : (podSpecs (Training.job config request image name
      (resolveNamespace request config.ns) resources labels)).map
        (fun spec => (podContainers spec).length) = [0, 1, 1] := rfl
  have hlength := List.mem_map_of_mem (f := fun spec => (podContainers spec).length) hspec
  change _ ∈ List.map _ (podSpecs (Training.job ..)) at hlength
  rw [specs] at hlength
  have short : ∀ length ∈ [0, 1, 1], length ≤ 1 := by decide
  exact short _ hlength

theorem resolve_gpus {request : WorkloadRequest} {cpu memory : String}
    {resources : ContainerResources}
    (resolved : ContainerResources.resolve request cpu memory = .ok resources) :
    resources.amount.gpus = request.resources.gpu.getD 0 := by
  unfold ContainerResources.resolve at resolved
  simp only [outcome_bind_ok] at resolved
  obtain ⟨cpuMillis, -, memoryBytes, -, h⟩ := resolved
  cases h
  rfl

/-- Every pod of a plan is one container that asks for what admission was asked for, with the
requested number of GPUs. -/
theorem sized_of_build {config : Config} {request : WorkloadRequest} {suffix : String} {plan : Plan}
    (built : Plan.build config request suffix = .ok plan) :
    ∃ amount, Plan.footprint config request = .ok amount ∧
      amount.gpus = request.resources.gpu.getD 0 ∧ planContainers plan ≠ [] ∧
      (∀ container ∈ planContainers plan, Asks amount container) ∧ OnePerPod plan := by
  have hbuilt := mapError_ok.mp built
  unfold Plan.footprint
  cases hkind : request.kind with
  | session =>
    rw [hkind] at hbuilt
    obtain ⟨resources, resolved, filled, asks⟩ := session_asks hbuilt
    obtain ⟨_, _, _, -, -, -, -, rfl⟩ := session_build_ok.mp hbuilt
    exact ⟨resources.amount, congrArg (Except.map _) resolved, resolve_gpus resolved, filled, asks,
      onePerPod_of_single (planContainers_assemble ..)⟩
  | servingDeployment =>
    rw [hkind] at hbuilt
    obtain ⟨resources, resolved, filled, asks⟩ := serving_asks hbuilt
    obtain ⟨_, _, _, -, -, -, rfl⟩ := serving_build_ok.mp hbuilt
    exact ⟨resources.amount, congrArg (Except.map _) resolved, resolve_gpus resolved, filled, asks,
      onePerPod_of_single rfl⟩
  | trainingJob =>
    rw [hkind] at hbuilt
    obtain ⟨resources, resolved, filled, asks⟩ := training_asks hbuilt
    exact ⟨resources.amount, congrArg (Except.map _) resolved, resolve_gpus resolved, filled, asks,
      onePerPod_training hbuilt⟩

/-- The pod of a plan that runs a specification with containers runs one of them and nothing
else. -/
theorem runs_alone {plan : Plan} {pod : Json} (single : OnePerPod plan) (runs : RunsFor plan pod) :
    ∃ container ∈ planContainers plan,
      Inventory.itemsAt pod ["spec", "containers"] = [container] := by
  obtain ⟨u, hu, spec, hspec, hne, hcontainers⟩ := runs
  obtain ⟨container, hcontainer⟩ := List.length_eq_one_iff.mp
    (le_antisymm (single u hu spec hspec) (List.length_pos_iff.mpr hne))
  rw [hcontainer] at hcontainers
  exact ⟨container, mem_planContainers hu hspec (hcontainer ▸ List.mem_singleton_self container),
    hcontainers⟩

/-- A count of GPUs that a plan is built with is the one that admission asks for. Every container
of the plan has its digits, and it is read back if its significand has at most 53 bits; then the
inventory accounts for a pod of the plan with what was admitted. Otherwise the count is read and
accounted for as the nearest that has, or refused where that is `2 ^ 64`. -/
theorem gpu_counts_read_back {config : Config} {request : WorkloadRequest} {suffix : String}
    {plan : Plan} {g : UInt64} (built : Plan.build config request suffix = .ok plan)
    (asked : request.resources.gpu = some g) (positive : 0 < g) :
    ∃ amount, Plan.footprint config request = .ok amount ∧ amount.gpus = g ∧
      planContainers plan ≠ [] ∧
      (∀ container ∈ planContainers plan, ∀ block ∈ ["limits", "requests"],
        container.at? ["resources", block, gpuResource] = some (.string (toString g.toNat))) ∧
      ReadBack g (Quantity.count (toString g.toNat)) ∧
      ∀ pod, RunsFor plan pod →
        (∃ container ∈ planContainers plan,
          PodCounted pod container amount (Quantity.count (toString g.toNat))) ∧
        (Fits 53 g.toNat → ∀ node, Inventory.podFootprint node pod = .ok ⟨node, amount⟩) := by
  obtain ⟨amount, sized, hgpus, filled, asks, single⟩ := sized_of_build built
  rw [asked, Option.getD_some] at hgpus
  have wanted : amount.gpus ≠ 0 := by
    rw [hgpus]
    exact UInt64.pos_iff_ne_zero.mp positive
  refine ⟨amount, sized, hgpus, filled, fun container hcontainer => ?_, readBack_count g,
    fun pod runs => ?_⟩
  · rw [← hgpus]
    exact gpuText_of_asks (asks container hcontainer) wanted
  · obtain ⟨container, hcontainer, alone⟩ := runs_alone single runs
    have counted := podCounted_of_asks alone (asks container hcontainer) wanted
    rw [hgpus] at counted
    refine ⟨⟨container, hcontainer, counted⟩, fun fits node => ?_⟩
    rw [counted.counted ((readBack_count g).exact.mpr fits) node, ← hgpus]

/-- A session that asks for some GPUs. -/
def gpuRequest (g : UInt64) : WorkloadRequest :=
  { claimingRequest with resources := ⟨some " 500m ", none, some g⟩ }

/-- The count is greater than `2 ^ 53` and even, so it has a significand of 53 bits. -/
theorem gpu_counts_read_back_even :
    ∃ plan pod, Plan.build .standard (gpuRequest 9007199254740994) "1a2b3" = .ok plan ∧
      (gpuRequest 9007199254740994).resources.gpu = some 9007199254740994 ∧
      (0 : UInt64) < 9007199254740994 ∧ Fits 53 (9007199254740994 : UInt64).toNat ∧
      RunsFor plan pod ∧
      Plan.footprint .standard (gpuRequest 9007199254740994) =
        .ok ⟨500, 2147483648, 9007199254740994⟩ ∧
      Quantity.count (toString (9007199254740994 : UInt64).toNat) = .ok 9007199254740994 ∧
      ∀ node, Inventory.podFootprint node pod =
        .ok ⟨node, ⟨500, 2147483648, 9007199254740994⟩⟩ := by
  have builds : (Plan.build .standard (gpuRequest 9007199254740994) "1a2b3").isOk = true := by
    decide +kernel
  have sized : Plan.footprint .standard (gpuRequest 9007199254740994) =
      .ok ⟨500, 2147483648, 9007199254740994⟩ := by
    decide +kernel
  have fits : Fits 53 (9007199254740994 : UInt64).toNat := ⟨4503599627370497, 1, by decide, rfl⟩
  obtain ⟨plan, built⟩ := exists_of_isOk builds
  obtain ⟨amount, hamount, -, filled, -, read, pods⟩ :=
    gpu_counts_read_back built rfl (by decide : (0 : UInt64) < 9007199254740994)
  cases sized.symm.trans hamount
  obtain ⟨pod, runs⟩ := exists_runsFor filled
  exact ⟨plan, pod, built, rfl, by decide, fits, runs, sized, read.exact.mpr fits,
    (pods pod runs).2 fits⟩

/-- The next lower count is odd and read as another one. -/
theorem gpu_count_rounded :
    ∃ plan, Plan.build .standard (gpuRequest 9007199254740993) "1a2b3" = .ok plan ∧
      planContainers plan ≠ [] ∧
      (∀ container ∈ planContainers plan, ∀ block ∈ ["limits", "requests"],
        container.at? ["resources", block, gpuResource] = some (.string "9007199254740993")) ∧
      Quantity.count "9007199254740993" = .ok 9007199254740992 := by
  have builds : (Plan.build .standard (gpuRequest 9007199254740993) "1a2b3").isOk = true := by
    decide +kernel
  obtain ⟨plan, built⟩ := exists_of_isOk builds
  obtain ⟨amount, -, hgpus, filled, asks, -⟩ := sized_of_build built
  have hcount : amount.gpus = 9007199254740993 := hgpus
  refine ⟨plan, built, filled, fun container hcontainer => ?_, by decide +kernel⟩
  have text := gpuText_of_asks (asks container hcontainer) (by rw [hcount]; decide)
  rw [hcount] at text
  exact text

end ClusterProvisioning.Proofs
