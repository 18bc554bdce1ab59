import ClusterProvisioning.Plan.Build
import ClusterProvisioning.Proofs.ApplyLedger

/-!
# The plans that are built

When a plan is built for each kind of workload, and what it is. Whatever the request, its units
have distinct identities, carry their own names, and are undone by deleting their own objects
(`planForm_of_build`).
-/

namespace ClusterProvisioning.Proofs
open Plan

variable {ε α β : Type}

theorem outcome_bind_ok {x : Except ε α} {f : α → Except ε β} {b : β} :
    (x >>= f) = .ok b ↔ ∃ a, x = .ok a ∧ f a = .ok b := by
  cases x with
  | error report =>
    constructor
    · intro h
      cases h
    · rintro ⟨a, ha, -⟩
      cases ha
  | ok a =>
    constructor
    · intro h
      exact ⟨a, rfl, h⟩
    · rintro ⟨_, ha, h⟩
      cases ha
      exact h

theorem outcome_bind_error {x : Except ε α} {f : α → Except ε β} {report : ε} :
    (x >>= f) = .error report ↔ x = .error report ∨ ∃ a, x = .ok a ∧ f a = .error report := by
  cases x with
  | error other =>
    constructor
    · rintro ⟨⟩
      exact .inl rfl
    · rintro (⟨⟨⟩⟩ | ⟨a, ha, -⟩)
      · rfl
      · cases ha
  | ok a =>
    constructor
    · intro h
      exact .inr ⟨a, rfl, h⟩
    · rintro (h | ⟨_, ha, h⟩)
      · cases h
      · cases ha
        exact h

theorem mapError_ok {δ : Type} {x : Except ε α} {f : ε → δ} {a : α} :
    x.mapError f = .ok a ↔ x = .ok a := by
  cases x with
  | error report => exact ⟨fun h => (by cases h), fun h => (by cases h)⟩
  | ok value => exact ⟨fun h => (by cases h; rfl), fun h => (by cases h; rfl)⟩

theorem exists_of_isOk {x : Outcome α} (h : x.isOk = true) : ∃ a, x = .ok a := by
  cases x with
  | error report => cases h
  | ok a => exact ⟨a, rfl⟩

/-! ### Plans by kind -/

theorem session_build_ok {config : SessionConfig} {request : WorkloadRequest} {suffix : String}
    {plan : Plan} :
    Session.build config request suffix = .ok plan ↔
      ∃ image resources owner, resolveImage request config.image = .ok image ∧
        ContainerResources.resolve request config.cpu config.memory = .ok resources ∧
        labelOf "owner" request.owner = .ok owner ∧ Session.port config request ≠ 0 ∧
        plan = Session.assemble config request image resources
          (.of request owner suffix (resolveNamespace request config.ns)
            (Session.port config request)) := by
  unfold Session.build
  simp only [outcome_bind_ok]
  constructor
  · rintro ⟨image, himage, resources, hresources, owner, howner, h⟩
    split at h
    next => cases h
    next hport =>
      cases h
      exact ⟨image, resources, owner, himage, hresources, howner, hport, rfl⟩
  · rintro ⟨image, resources, owner, himage, hresources, howner, hport, rfl⟩
    refine ⟨image, himage, resources, hresources, owner, howner, ?_⟩
    rw [if_neg hport]
    rfl

/-- What a session is refused for: none of it depends on the suffix. -/
theorem session_build_error {config : SessionConfig} {request : WorkloadRequest}
    {suffix : String} {report : Report ProvisionError} :
    Session.build config request suffix = .error report ↔
      resolveImage request config.image = .error report ∨
      ∃ image, resolveImage request config.image = .ok image ∧
        (ContainerResources.resolve request config.cpu config.memory = .error report ∨
        ∃ resources, ContainerResources.resolve request config.cpu config.memory = .ok resources ∧
          (labelOf "owner" request.owner = .error report ∨
          ∃ owner, labelOf "owner" request.owner = .ok owner ∧
            Session.port config request = 0 ∧ report = .of (.validation .sessionPortZero))) := by
  have port (plan : Plan) : (do
      if Session.port config request = 0 then throw (.of (.validation .sessionPortZero))
      return plan : Outcome Plan) = .error report ↔
      Session.port config request = 0 ∧ report = .of (.validation .sessionPortZero) := by
    by_cases zero : Session.port config request = 0
    · rw [if_pos zero]
      refine ⟨fun h => ⟨zero, ?_⟩, ?_⟩
      · cases h
        rfl
      · rintro ⟨-, rfl⟩
        rfl
    · rw [if_neg zero]
      refine ⟨fun h => ?_, fun h => absurd h.1 zero⟩
      cases h
  unfold Session.build
  simp only [outcome_bind_error, port]

theorem serving_build_ok {config : ServingConfig} {request : WorkloadRequest} {plan : Plan} :
    Serving.build config request = .ok plan ↔
      ∃ image resources name, resolveImage request config.image = .ok image ∧
        ContainerResources.resolve request config.cpu config.memory = .ok resources ∧
        labelOf "name" request.name = .ok name ∧
        let ns := resolveNamespace request config.ns
        let labels := request.labels.insert "app" name
        plan = {
          workload := .servingDeployment
          units := [
            .of .deployment ns name
              (Serving.deployment config request image name ns resources labels),
            .of .service ns name (Serving.service config name ns labels)]
          access := some (.nodePort config.externalAddress ⟨.service, ns, name⟩
            config.httpPort) } := by
  unfold Serving.build
  simp only [outcome_bind_ok]
  constructor
  · rintro ⟨image, himage, resources, hresources, name, hname, h⟩
    cases h
    exact ⟨image, resources, name, himage, hresources, hname, rfl⟩
  · rintro ⟨image, resources, name, himage, hresources, hname, rfl⟩
    exact ⟨image, himage, resources, hresources, name, hname, rfl⟩

theorem training_build_ok {config : TrainingConfig} {request : WorkloadRequest} {plan : Plan} :
    Training.build config request = .ok plan ↔
      ∃ image resources name labels, resolveImage request config.image = .ok image ∧
        ContainerResources.resolve request config.cpu config.memory = .ok resources ∧
        labelOf "name" request.name = .ok name ∧ Training.labels request name = .ok labels ∧
        let ns := resolveNamespace request config.ns
        plan = {
          workload := .trainingJob
          units := [.of .pyTorchJob ns name
            (Training.job config request image name ns resources labels)]
          access := none } := by
  unfold Training.build
  simp only [outcome_bind_ok]
  constructor
  · rintro ⟨image, himage, resources, hresources, name, hname, labels, hlabels, h⟩
    cases h
    exact ⟨image, resources, name, labels, himage, hresources, hname, hlabels, rfl⟩
  · rintro ⟨image, resources, name, labels, himage, hresources, hname, hlabels, rfl⟩
    exact ⟨image, himage, resources, hresources, name, hname, labels, hlabels, rfl⟩

/-! ### The units of a plan -/

theorem name?_manifestOf (kind : Kind) (name ns : String) (labels : Table String) (spec : Json) :
    Manifest.name? (manifestOf kind name ns labels spec) = some name :=
  rfl

theorem planForm_assemble (config : SessionConfig) (request : WorkloadRequest) (image : String)
    (resources : ContainerResources) (id : Session.Identity) :
    PlanForm (Session.assemble config request image resources id).units where
  distinct := by
    simp [Session.assemble, PlanUnit.of, PlanUnit.ref, Kind.pod, Kind.service,
      Kind.virtualService]
  named := by
    simp [Session.assemble, PlanUnit.of, Session.pod, Session.service, Session.route,
      name?_manifestOf]
  undo := by simp [Session.assemble, PlanUnit.of, PlanUnit.ref]

/-- The units of a plan that is built promise what applying relies on. -/
theorem planForm_of_build {config : Config} {request : WorkloadRequest} {suffix : String}
    {plan : Plan} (h : Plan.build config request suffix = .ok plan) : PlanForm plan.units := by
  have hbuilt := mapError_ok.mp h
  cases hkind : request.kind with
  | session =>
    rw [hkind] at hbuilt
    obtain ⟨image, resources, owner, -, -, -, -, rfl⟩ := session_build_ok.mp hbuilt
    exact planForm_assemble _ _ _ _ _
  | servingDeployment =>
    rw [hkind] at hbuilt
    obtain ⟨image, resources, name, -, -, -, rfl⟩ := serving_build_ok.mp hbuilt
    constructor
    · simp [PlanUnit.of, PlanUnit.ref, Kind.deployment, Kind.service]
    · simp [PlanUnit.of, Serving.deployment, Serving.service, name?_manifestOf]
    · simp [PlanUnit.of, PlanUnit.ref]
  | trainingJob =>
    rw [hkind] at hbuilt
    obtain ⟨image, resources, name, labels, -, -, -, -, rfl⟩ := training_build_ok.mp hbuilt
    constructor
    · simp
    · simp [PlanUnit.of, Training.job, name?_manifestOf]
    · simp [PlanUnit.of, PlanUnit.ref]

/-! ### A session that is built -/

/-- A session whose labels claim to be another one of another owner. -/
def claimingRequest : WorkloadRequest where
  kind := .session
  name := "lab"
  ns := ""
  owner := "Ada Lovelace"
  image := "jupyter/lab"
  resources := ⟨some " 500m ", none, some 1⟩
  replicas := ⟨none, none⟩
  command := []
  args := []
  mounts := []
  ports := [8888]
  env := []
  nodeSelector := []
  labels := [("app", "other"), ("user", "other")]
  restartPolicy := none
  imagePullPolicy := none

theorem claimingRequest_builds :
    ∃ plan, Plan.build .standard claimingRequest "1a2b3" = .ok plan := by
  have builds : (Plan.build .standard claimingRequest "1a2b3").isOk = true := by decide +kernel
  exact exists_of_isOk builds

end ClusterProvisioning.Proofs
