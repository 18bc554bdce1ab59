import ClusterProvisioning.Proofs.PlanBuild

/-!
# The namespaces of plans

All units of a plan are in one namespace, which is that of the request if it has one and else the
configured one of the kind. A configuration that is read has no empty namespace, and so no unit has
one (`plan_placed`). The two sides do not mean the same by empty: a blank namespace counts as none
in a request, but as one in a configuration. A unit has a blank namespace exactly when both are
blank.
-/

namespace ClusterProvisioning.Proofs
open Plan

/-! ### Configurations -/

def configuredNamespace (config : Config) : WorkloadKind → String
  | .session => config.session.ns
  | .servingDeployment => config.serving.ns
  | .trainingJob => config.training.ns

theorem configuredNamespace_listed (config : Config) (kind : WorkloadKind) :
    ∃ field, (field, configuredNamespace config kind) ∈ config.namespaces := by
  cases kind with
  | session => exact ⟨_, List.mem_cons_self⟩
  | servingDeployment => exact ⟨_, List.mem_cons_of_mem _ List.mem_cons_self⟩
  | trainingJob =>
    exact ⟨_, List.mem_cons_of_mem _ (List.mem_cons_of_mem _ List.mem_cons_self)⟩

/-- A configuration has no problem exactly if every port and every namespace is filled in. -/
theorem problem?_none {config : Config} :
    config.problem? = none ↔
      (∀ entry ∈ config.ports, entry.2 ≠ 0) ∧ ∀ entry ∈ config.namespaces, entry.2 ≠ "" := by
  have ports : config.ports.find? (fun entry => entry.2 = 0) = none ↔
      ∀ entry ∈ config.ports, entry.2 ≠ 0 := by
    simp [List.find?_eq_none]
  have namespaces : config.namespaces.find? (fun entry => entry.2 = "") = none ↔
      ∀ entry ∈ config.namespaces, entry.2 ≠ "" := by
    simp [List.find?_eq_none]
  rw [← ports, ← namespaces]
  unfold Config.problem?
  split
  next found => simp [found]
  next missing =>
    split
    next found => simp [missing, found]
    next none => simp [missing, none]

theorem problem?_of_ofYaml {yaml : String} {config : Config}
    (accepted : Config.ofYaml yaml = .ok config) : config.problem? = none := by
  unfold Config.ofYaml Config.ofDocument Config.checked at accepted
  split at accepted
  next =>
    split at accepted
    next =>
      split at accepted
      next => cases accepted
      next sound =>
        cases accepted
        exact sound
    next => cases accepted
  next => cases accepted

/-! ### Plans -/

theorem resolveNamespace_eq (request : WorkloadRequest) (configured : String) :
    resolveNamespace request configured =
      if Text.isFilled request.ns = true then request.ns else configured := by
  by_cases filled : Text.isFilled request.ns = true
  · rw [if_pos filled, resolveNamespace, filled?, Option.filter_some, if_pos filled]
    rfl
  · rw [if_neg filled, resolveNamespace, filled?, Option.filter_some, if_neg filled]
    rfl

/-- A unit and its manifest are in a namespace. -/
def Placed (ns : String) (unit : PlanUnit) : Prop :=
  unit.ns = ns ∧ unit.manifest.at? ["metadata", "namespace"] = some (.string ns)

theorem placed_manifestOf (kind : Kind) (ns name : String) (labels : Table String) (spec : Json) :
    Placed ns (.of kind ns name (manifestOf kind name ns labels spec)) :=
  ⟨rfl, rfl⟩

theorem placed_of_build {config : Config} {request : WorkloadRequest} {suffix : String}
    {plan : Plan} (built : Plan.build config request suffix = .ok plan) :
    plan.units ≠ [] ∧ ∀ unit ∈ plan.units,
      Placed (resolveNamespace request (configuredNamespace config request.kind)) unit := by
  have hbuilt := mapError_ok.mp built
  cases hkind : request.kind with
  | session =>
    rw [hkind] at hbuilt
    obtain ⟨image, resources, owner, -, -, -, -, rfl⟩ := session_build_ok.mp hbuilt
    refine ⟨List.cons_ne_nil _ _, ?_⟩
    simp only [Session.assemble, List.forall_mem_cons]
    exact ⟨placed_manifestOf _ _ _ _ _, placed_manifestOf _ _ _ _ _, ⟨rfl, rfl⟩,
      fun _ h => absurd h List.not_mem_nil⟩
  | servingDeployment =>
    rw [hkind] at hbuilt
    obtain ⟨image, resources, name, -, -, -, rfl⟩ := serving_build_ok.mp hbuilt
    refine ⟨List.cons_ne_nil _ _, ?_⟩
    simp only [List.forall_mem_cons]
    exact ⟨placed_manifestOf _ _ _ _ _, placed_manifestOf _ _ _ _ _,
      fun _ h => absurd h List.not_mem_nil⟩
  | trainingJob =>
    rw [hkind] at hbuilt
    obtain ⟨image, resources, name, labels, -, -, -, -, rfl⟩ := training_build_ok.mp hbuilt
    exact ⟨List.cons_ne_nil _ _, List.forall_mem_singleton.mpr (placed_manifestOf _ _ _ _ _)⟩

/-- Every unit of a plan that is built under a configuration that was read is in the namespace of
the request, if that is not blank, and else in the configured one, which is not empty but may be
blank. -/
theorem plan_placed (yaml : String) (config : Config) (request : WorkloadRequest) (suffix : String)
    (plan : Plan) (accepted : Config.ofYaml yaml = .ok config)
    (built : Plan.build config request suffix = .ok plan) :
    plan.units ≠ [] ∧ ∀ unit ∈ plan.units,
      unit.manifest.at? ["metadata", "namespace"] = some (.string unit.ns) ∧
        unit.ns = (if Text.isFilled request.ns = true then request.ns
          else configuredNamespace config request.kind) ∧
        unit.ns ≠ "" ∧
        (Text.isFilled unit.ns = true ↔ Text.isFilled request.ns = true ∨
          Text.isFilled (configuredNamespace config request.kind) = true) := by
  obtain ⟨some, placed⟩ := placed_of_build built
  refine ⟨some, fun unit hunit => ?_⟩
  obtain ⟨hns, hmanifest⟩ := placed unit hunit
  rw [← hns] at hmanifest
  rw [resolveNamespace_eq] at hns
  refine ⟨hmanifest, hns, ?_, ?_⟩
  · obtain ⟨field, listed⟩ := configuredNamespace_listed config request.kind
    have configured := (problem?_none.mp (problem?_of_ofYaml accepted)).2 _ listed
    rw [hns]
    split
    next filled =>
      intro empty
      rw [empty] at filled
      cases filled
    next => exact configured
  · rw [hns]
    split
    next filled => exact iff_of_true filled (.inl filled)
    next blank => exact (or_iff_right blank).symm

/-- The standard configuration, but with a blank namespace for training jobs. -/
def blankConfig : Config :=
  { Config.standard with training := { TrainingConfig.standard with ns := " " } }

theorem blankConfig_read :
    Config.ofYaml "training:\n  namespace: \" \"\n" = .ok blankConfig := by
  have read : (Config.ofYaml "training:\n  namespace: \" \"\n").toOption = some blankConfig := by
    decide +kernel
  cases h : Config.ofYaml "training:\n  namespace: \" \"\n" with
  | error report =>
    rw [h] at read
    cases read
  | ok config =>
    rw [h] at read
    exact congrArg Except.ok (Option.some.inj read)

/-- A training job in a namespace. -/
def placedRequest (ns : String) : WorkloadRequest :=
  { claimingRequest with kind := .trainingJob, ns := ns }

/-- The namespace of the request keeps a blank configured one away. -/
theorem plan_placed_lab :
    ∃ plan, Config.ofYaml "training:\n  namespace: \" \"\n" = .ok blankConfig ∧
      Plan.build blankConfig (placedRequest "lab") "1a2b3" = .ok plan ∧
      ∀ unit ∈ plan.units, unit.ns = "lab" := by
  have builds : (Plan.build blankConfig (placedRequest "lab") "1a2b3").isOk = true := by
    decide +kernel
  obtain ⟨plan, built⟩ := exists_of_isOk builds
  obtain ⟨-, placed⟩ := plan_placed _ blankConfig (placedRequest "lab") "1a2b3" plan
    blankConfig_read built
  exact ⟨plan, blankConfig_read, built, fun unit hunit => (placed unit hunit).2.1⟩

/-- Without one, all units are in the blank namespace. -/
theorem blank_namespace_placed :
    ¬∀ (yaml : String) (config : Config) (request : WorkloadRequest) (suffix : String)
      (plan : Plan), Config.ofYaml yaml = .ok config →
      Plan.build config request suffix = .ok plan →
      ∀ unit ∈ plan.units, Text.isFilled unit.ns = true := by
  intro filled
  have builds : (Plan.build blankConfig (placedRequest "") "1a2b3").isOk = true := by
    decide +kernel
  obtain ⟨plan, built⟩ := exists_of_isOk builds
  obtain ⟨some, placed⟩ := placed_of_build built
  obtain ⟨unit, hunit⟩ := List.exists_mem_of_ne_nil _ some
  have h := filled _ _ _ _ _ blankConfig_read built unit hunit
  rw [(placed unit hunit).1] at h
  cases h

end ClusterProvisioning.Proofs
