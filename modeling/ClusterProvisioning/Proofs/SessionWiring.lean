import ClusterProvisioning.Proofs.PlanBuild

/-!
# The wiring of a session

Pod, service and route of a session are written one by one and have to find each other. `Wired`
says that they do: one map of labels, one port, one path, and the name of the service. The labels
that tell sessions apart are set after those of the request, so a service selects the pod of its
own session and no pod of another.
-/

namespace ClusterProvisioning.Proofs
open Plan

/-! ### Where the parts of a session stand -/

def labelsPath : List String := ["metadata", "labels"]
def selectorPath : List String := ["spec", "selector"]
def containerPortPath : List String :=
  ["spec", "containers", "0", "ports", "0", "containerPort"]
def servicePortPath : List String := ["spec", "ports", "0", "port"]
def targetPortPath : List String := ["spec", "ports", "0", "targetPort"]
def destinationPath : List String := ["spec", "http", "0", "route", "0", "destination"]
def destinationPortPath : List String := destinationPath ++ ["port", "number"]
def matchPath : List String := ["spec", "http", "0", "match", "0", "uri", "prefix"]
def rewritePath : List String := ["spec", "http", "0", "rewrite", "uri"]

/-- Pod, service and route agree on what they have in common. -/
structure Wired (config : Config) (request : WorkloadRequest) (suffix : String)
    (pod service route : PlanUnit) (access : Option Access) : Prop where
  kinds : pod.kind = .pod ∧ service.kind = .service ∧ route.kind = .virtualService
  namespaces : service.ns = pod.ns ∧ route.ns = pod.ns
  /-- One map is the selector of the service and the labels of all objects. It names the session,
  its type and its owner. -/
  labels : ∃ labels owner, pod.manifest.at? labelsPath = some labels ∧
    service.manifest.at? labelsPath = some labels ∧
    route.manifest.at? labelsPath = some labels ∧
    service.manifest.at? selectorPath = some labels ∧
    Text.label? request.owner = some owner ∧ pod.name = s!"{owner}-{suffix}" ∧
    labels.at? ["app"] = some (.string pod.name) ∧
    labels.at? ["pod-type"] = some (.string "notebook") ∧
    labels.at? ["user"] = some (.string owner)
  /-- One port is served, exposed and routed to. -/
  port : ∃ port : UInt16, port ≠ 0 ∧
    pod.manifest.at? containerPortPath = some (number16 port) ∧
    service.manifest.at? servicePortPath = some (number16 port) ∧
    service.manifest.at? targetPortPath = some (number16 port) ∧
    route.manifest.at? destinationPortPath = some (number16 port)
  host : route.manifest.at? (destinationPath ++ ["host"]) =
    some (.string s!"{service.name}.{service.ns}.svc.cluster.local")
  /-- The path that the route matches is handed on as it is and stands in the address. -/
  path : ∃ path, route.manifest.at? matchPath = some (.string path) ∧
    route.manifest.at? rewritePath = some (.string path) ∧
    access = some (.url s!"http://{config.session.externalAddress}{path}lab")

/-- A service selects a pod whose labels have every entry of its selector. -/
def Selects (service pod : Json) : Prop :=
  ∃ selector labels, service.at? selectorPath = some selector ∧
    pod.at? labelsPath = some labels ∧
    ∀ key value, selector.at? [key] = some value → labels.at? [key] = some value

/-- The units of the plan of a session. -/
def SessionPlan (config : Config) (request : WorkloadRequest) (suffix : String) (plan : Plan)
    (pod service route : PlanUnit) : Prop :=
  request.kind = .session ∧ Plan.build config request suffix = .ok plan ∧
    plan.units = [pod, service, route]

/-! ### Labels -/

theorem get?_map {α β : Type} (f : α → β) (t : Table α) (name : String) :
    Table.get? (t.map fun entry => (entry.1, f entry.2)) name = (t.get? name).map f := by
  induction t with
  | nil => rfl
  | cons entry rest ih =>
    obtain ⟨key, value⟩ := entry
    simp only [List.map_cons, Table.get?]
    split
    · rfl
    · exact ih

theorem at?_ofTexts (t : Table String) (name : String) :
    (Json.ofTexts t).at? [name] = (t.get? name).map .string := by
  simp only [Json.ofTexts, Json.at?, Json.step?, get?_map]
  cases t.get? name <;> rfl

/-- The labels of a session name it, its type and its owner, whatever the request says. -/
theorem identity_labels (request : WorkloadRequest) (owner suffix ns : String) (port : UInt16) :
    let id := Session.Identity.of request owner suffix ns port
    id.labels.get? "app" = some id.name ∧ id.labels.get? "pod-type" = some "notebook" ∧
      id.labels.get? "user" = some owner := by
  refine ⟨?_, ?_, Table.get?_insert_self _ _ _⟩
  · change Table.get? (Table.insert (Table.insert _ _ _) _ _) _ = _
    rw [Table.get?_insert_of_ne _ _ (by decide), Table.get?_insert_of_ne _ _ (by decide)]
    exact Table.get?_insert_self _ _ _
  · change Table.get? (Table.insert _ _ _) _ = _
    rw [Table.get?_insert_of_ne _ _ (by decide)]
    exact Table.get?_insert_self _ _ _

/-! ### Plans of sessions -/

theorem labelOf_ok {field raw label : String} :
    labelOf field raw = .ok label ↔ Text.label? raw = some label := by
  unfold labelOf
  cases Text.label? raw with
  | none => exact ⟨fun h => (by cases h), fun h => (by cases h)⟩
  | some value => exact ⟨fun h => (by cases h; rfl), fun h => (by cases h; rfl)⟩

/-- The plan of a session is put together from what its objects agree on. -/
theorem sessionPlan_assemble {config : Config} {request : WorkloadRequest} {suffix : String}
    {plan : Plan} (kind : request.kind = .session)
    (built : Plan.build config request suffix = .ok plan) :
    ∃ image resources owner,
      ContainerResources.resolve request config.session.cpu config.session.memory =
        .ok resources ∧
      Text.label? request.owner = some owner ∧ Session.port config.session request ≠ 0 ∧
      plan = Session.assemble config.session request image resources
        (.of request owner suffix (resolveNamespace request config.session.ns)
          (Session.port config.session request)) := by
  have hbuilt := mapError_ok.mp built
  rw [kind] at hbuilt
  obtain ⟨image, resources, owner, -, hresources, howner, hport, rfl⟩ :=
    session_build_ok.mp hbuilt
  exact ⟨image, resources, owner, hresources, labelOf_ok.mp howner, hport, rfl⟩

theorem wired_of_build {config : Config} {request : WorkloadRequest} {suffix : String}
    {plan : Plan} {pod service route : PlanUnit}
    (session : SessionPlan config request suffix plan pod service route) :
    Wired config request suffix pod service route plan.access := by
  obtain ⟨kind, built, hunits⟩ := session
  obtain ⟨image, resources, owner, -, howner, hport, rfl⟩ := sessionPlan_assemble kind built
  cases hunits
  obtain ⟨happ, htype, huser⟩ := identity_labels request owner suffix
    (resolveNamespace request config.session.ns) (Session.port config.session request)
  refine ⟨⟨rfl, rfl, rfl⟩, ⟨rfl, rfl⟩, ?_, ?_, rfl, _, rfl, rfl, rfl⟩
  · refine ⟨.ofTexts _, owner, rfl, rfl, rfl, rfl, howner, rfl, ?_, ?_, ?_⟩
    · rw [at?_ofTexts, happ]
      rfl
    · rw [at?_ofTexts, htype]
      rfl
    · rw [at?_ofTexts, huser]
      rfl
  · exact ⟨_, hport, rfl, rfl, rfl, rfl⟩

/-- A service selects no pod of a session with another name. -/
theorem not_selects {config config' : Config} {request request' : WorkloadRequest}
    {suffix suffix' : String} {pod service route pod' service' route' : PlanUnit}
    {access access' : Option Access}
    (wired : Wired config request suffix pod service route access)
    (wired' : Wired config' request' suffix' pod' service' route' access')
    (other : pod'.name ≠ pod.name) : ¬Selects service.manifest pod'.manifest := by
  rintro ⟨selector, labels', hselector, hlabels', entries⟩
  obtain ⟨labels, -, -, -, -, hown, -, -, happ, -⟩ := wired.labels
  obtain ⟨_, -, hother, -, -, -, -, -, happ', -⟩ := wired'.labels
  cases hselector.symm.trans hown
  cases hlabels'.symm.trans hother
  have hname := (entries "app" _ happ).symm.trans happ'
  exact other (Json.string.inj (Option.some.inj hname)).symm

/-- The objects of a session are wired together, and its service selects its own pod and none of a
session with another name. -/
def WiredSession (config : Config) (request : WorkloadRequest) (suffix : String)
    (plan : Plan) : Prop :=
  ∃ pod service route, plan.units = [pod, service, route] ∧
    Wired config request suffix pod service route plan.access ∧
    Selects service.manifest pod.manifest ∧
    ∀ config' request' suffix' plan' pod' service' route',
      SessionPlan config' request' suffix' plan' pod' service' route' → pod'.name ≠ pod.name →
      ¬Selects service.manifest pod'.manifest ∧ ¬Selects service'.manifest pod.manifest

/-- Every session that is built is wired together. -/
theorem session_wired (config : Config) (request : WorkloadRequest) (suffix : String)
    (plan : Plan) (kind : request.kind = .session)
    (built : Plan.build config request suffix = .ok plan) :
    WiredSession config request suffix plan := by
  obtain ⟨image, resources, owner, -, -, -, hplan⟩ := sessionPlan_assemble kind built
  obtain ⟨pod, service, route, hunits⟩ :
      ∃ pod service route, plan.units = [pod, service, route] := by
    rw [hplan]
    exact ⟨_, _, _, rfl⟩
  have wired := wired_of_build ⟨kind, built, hunits⟩
  refine ⟨pod, service, route, hunits, wired, ?_, ?_⟩
  · obtain ⟨labels, -, hlabels, -, -, hselector, -⟩ := wired.labels
    exact ⟨labels, labels, hselector, hlabels, fun _ _ h => h⟩
  · intro config' request' suffix' plan' pod' service' route' session' other
    have wired' := wired_of_build session'
    exact ⟨not_selects wired wired' other, not_selects wired' wired (Ne.symm other)⟩

/-- The session is wired by its own name and owner all the same. -/
theorem session_wired_despite_claims :
    ∃ plan, claimingRequest.kind = .session ∧
      Plan.build .standard claimingRequest "1a2b3" = .ok plan ∧
      WiredSession .standard claimingRequest "1a2b3" plan := by
  obtain ⟨plan, built⟩ := claimingRequest_builds
  exact ⟨plan, rfl, built, session_wired .standard claimingRequest "1a2b3" plan rfl built⟩

end ClusterProvisioning.Proofs
