import ClusterProvisioning.Proofs.LiveObjects
import ClusterProvisioning.Proofs.SessionWiring
import ClusterProvisioning.Proofs.TeardownCourse

/-!
# The shape of a session

What pod, service and route of one session have in common for as long as the session lives, stated
of each object by itself. The objects of a plan have this shape (`sessionOf_build`), every edit of a
session is possible on objects of this shape, and leads to objects of this shape again.
-/

namespace ClusterProvisioning.Proofs
open Plan SessionUpdate

/-- What identifies a session and stays the same while it lives: its objects, their labels and the
port of its container. -/
structure SessionParts where
  pod : Ref
  service : Ref
  route : Ref
  labels : Json
  port : Json
  pod_kind : pod.kind = .pod
  service_kind : service.kind = .service
  route_kind : route.kind = .virtualService

def SessionParts.units (s : SessionParts) : List Ref := [s.pod, s.service, s.route]

def containerPath : List String := ["spec", "containers", "0"]
def limitsPath : List String := containerPath ++ ["resources", "limits"]
def requestsPath : List String := containerPath ++ ["resources", "requests"]

variable {s : SessionParts} {manifest object served routed : Json}

/-- A pod of the session, whose container is limited to what it requests. -/
structure PodShape (s : SessionParts) (pod : Json) : Prop where
  named : Manifest.name? pod = some s.pod.name
  labels : pod.at? labelsPath = some s.labels
  port : pod.at? containerPortPath = some s.port
  amounts : ∃ amounts, pod.at? limitsPath = some amounts ∧ pod.at? requestsPath = some amounts

/-- A service that hands on what it is sent at a port to the pods with the labels of the session. -/
structure ServiceShape (s : SessionParts) (served service : Json) : Prop where
  named : Manifest.name? service = some s.service.name
  selector : service.at? selectorPath = some s.labels
  target : service.at? targetPortPath = some s.port
  port : service.at? servicePortPath = some served

/-- A route to a port. -/
structure RouteShape (s : SessionParts) (routed route : Json) : Prop where
  named : Manifest.name? route = some s.route.name
  port : route.at? destinationPortPath = some routed

/-! ### Stored objects -/

theorem PodShape.retained (shape : PodShape s manifest) (retains : Retains manifest object) :
    PodShape s object where
  named := retains.name?.trans shape.named
  labels := (retains _ (.metadata (by decide) (by decide))).trans shape.labels
  port := (retains _ (.spec (by decide))).trans shape.port
  amounts := by
    obtain ⟨amounts, hlimits, hrequests⟩ := shape.amounts
    exact ⟨amounts, (retains _ (.spec (by decide))).trans hlimits,
      (retains _ (.spec (by decide))).trans hrequests⟩

theorem ServiceShape.retained (shape : ServiceShape s served manifest)
    (retains : Retains manifest object) : ServiceShape s served object where
  named := retains.name?.trans shape.named
  selector := (retains _ (.spec (by decide))).trans shape.selector
  target := (retains _ (.port (by decide))).trans shape.target
  port := (retains _ (.port (by decide))).trans shape.port

theorem RouteShape.retained (shape : RouteShape s routed manifest)
    (retains : Retains manifest object) : RouteShape s routed object where
  named := retains.name?.trans shape.named
  port := (retains _ (.spec (by decide))).trans shape.port

/-! ### New resources -/

/-- A change to the specification leaves the metadata. -/
theorem modifySpec_metadata (f : Json → Json) (manifest : Json) (place path : List String) :
    (manifest.modifyAt f ("spec" :: place)).at? ("metadata" :: path) =
      manifest.at? ("metadata" :: path) :=
  at?_modifyAt_apart f manifest [] place path (by decide)

theorem modifySpec_name? (f : Json → Json) (manifest : Json) (place : List String) :
    Manifest.name? (manifest.modifyAt f ("spec" :: place)) = Manifest.name? manifest := by
  unfold Manifest.name?
  rw [modifySpec_metadata]

/-- Only an object has something below a name that is no position. -/
theorem object_of_step {j below : Json} {name : String} (word : Json.position? name = none)
    (place : j.step? name = some below) :
    ∃ members, j = .object members ∧ Table.get? members name = some below := by
  cases j with
  | object members => exact ⟨members, rfl, place⟩
  | array items =>
    rw [Json.step?, word] at place
    cases place
  | null => cases place
  | bool b => cases place
  | number n => cases place
  | string s => cases place

theorem step_of_at? {j below : Json} {name : String} {path : List String}
    (h : j.at? (name :: path) = some below) :
    ∃ place, j.step? name = some place ∧ place.at? path = some below :=
  Option.bind_eq_some_iff.mp h

theorem setSection_self (changes : Table Json) (gpu : Option UInt64) {resources amounts : Json}
    {name : String} (word : Json.position? name = none)
    (h : resources.at? [name] = some amounts) :
    (setSection changes gpu resources name).at? [name] = some (setAmounts changes gpu amounts) := by
  obtain ⟨_, hstep, ⟨⟩⟩ := step_of_at? h
  obtain ⟨sections, rfl, hsection⟩ := object_of_step word hstep
  simp only [setSection, hsection, Option.getD_some, Json.at?, Json.step?,
    Table.get?_insert_self, Option.bind_some]

theorem setSection_of_ne (changes : Table Json) (gpu : Option UInt64) (resources : Json)
    {name other : String} (h : name ≠ other) :
    (setSection changes gpu resources name).at? [other] = resources.at? [other] := by
  cases resources with
  | object sections => exact at?_withMember_of_ne (.object sections) _ [] h
  | null | bool | number | string | array => rfl

theorem setContainer_resources (changes : Table Json) (gpu : Option UInt64)
    (members : Table Json) (path : List String) :
    (setContainer changes gpu (.object members)).at? ("resources" :: path) =
      (setSection changes gpu (setSection changes gpu
        ((Table.get? members "resources").getD (.object [])) "limits") "requests").at? path := by
  simp only [setContainer, List.foldl_cons, List.foldl_nil, Json.at?, Json.step?,
    Table.get?_insert_self, Option.bind_some]

/-- A container that is limited to what it requests is so with changed amounts as well. -/
theorem setContainer_amounts (changes : Table Json) (gpu : Option UInt64)
    {container amounts : Json} (limits : container.at? ["resources", "limits"] = some amounts)
    (requests : container.at? ["resources", "requests"] = some amounts) :
    (setContainer changes gpu container).at? ["resources", "limits"] =
        some (setAmounts changes gpu amounts) ∧
      (setContainer changes gpu container).at? ["resources", "requests"] =
        some (setAmounts changes gpu amounts) := by
  obtain ⟨resources, hresources, hlimits⟩ := step_of_at? limits
  obtain ⟨members, rfl, hmember⟩ := object_of_step (by decide) hresources
  have hrequests : resources.at? ["requests"] = some amounts := by
    obtain ⟨_, hsame, h⟩ := step_of_at? requests
    cases hsame.symm.trans hresources
    exact h
  have hset : ∀ path, (setContainer changes gpu (.object members)).at? ("resources" :: path) =
      (setSection changes gpu (setSection changes gpu resources "limits") "requests").at? path := by
    intro path
    rw [setContainer_resources, hmember, Option.getD_some]
  constructor
  · rw [hset, setSection_of_ne _ _ _ (by decide)]
    exact setSection_self changes gpu (by decide) hlimits
  · rw [hset]
    refine setSection_self changes gpu (by decide) ?_
    rw [setSection_of_ne _ _ _ (by decide)]
    exact hrequests

theorem setContainer_at? (changes : Table Json) (gpu : Option UInt64) (container : Json)
    {name : String} (path : List String) (h : "resources" ≠ name) :
    (setContainer changes gpu container).at? (name :: path) = container.at? (name :: path) := by
  cases container with
  | object members => exact at?_withMember_of_ne (.object members) _ path h
  | null | bool | number | string | array => rfl

/-- New resources can be set in a pod of the session, and leave it one. -/
theorem podEdit_shape (shape : PodShape s manifest) (changes : Table Json)
    (gpu : Option UInt64) :
    ∃ changed, (podEdit s.pod changes gpu).change manifest = .ok changed ∧ PodShape s changed := by
  obtain ⟨amounts, hlimits, hrequests⟩ := shape.amounts
  obtain ⟨container, hcontainer, hports⟩ :=
    Option.bind_eq_some_iff.mp ((at?_append manifest containerPath _).symm.trans shape.port)
  obtain ⟨below, hstep, -⟩ := step_of_at? hports
  obtain ⟨members, rfl, -⟩ := object_of_step (by decide) hstep
  have happend : ∀ path, manifest.at? (containerPath ++ path) =
      (Json.object members).at? path := by
    intro path
    rw [at?_append, hcontainer]
    rfl
  refine ⟨manifest.modifyAt (setContainer changes gpu) containerPath, ?_, ?_, ?_, ?_, ?_⟩
  · change (setResources changes gpu manifest).mapError _ = _
    rw [setResources, show manifest.at? ["spec", "containers", "0"] = _ from hcontainer]
    rfl
  · exact (modifySpec_name? _ _ _).trans shape.named
  · exact (modifySpec_metadata _ _ _ _).trans shape.labels
  · refine (at?_modifyAt_through _ manifest containerPath fun below => ?_).trans shape.port
    exact setContainer_at? changes gpu below _ (by decide)
  · rw [limitsPath, happend] at hlimits
    rw [requestsPath, happend] at hrequests
    obtain ⟨hlimits, hrequests⟩ := setContainer_amounts changes gpu hlimits hrequests
    refine ⟨setAmounts changes gpu amounts, ?_, ?_⟩
    · rw [limitsPath, at?_modifyAt_append, hcontainer]
      exact hlimits
    · rw [requestsPath, at?_modifyAt_append, hcontainer]
      exact hrequests

/-! ### New ports -/

/-- A key of what stands at a path can be assigned if it has a value there. -/
theorem assignAt_present (path : List String) {key : String} {old : Json} (value : Json)
    (word : Json.position? key = none) (present : manifest.at? (path ++ [key]) = some old) :
    ∃ members, manifest.at? path = some (.object members) ∧
      assignAt path key value manifest =
        .ok (manifest.modifyAt (fun _ => (Json.object members).withMember key value) path) := by
  obtain ⟨place, hplace, hkey⟩ :=
    Option.bind_eq_some_iff.mp ((at?_append manifest path _).symm.trans present)
  obtain ⟨below, hstep, -⟩ := step_of_at? hkey
  obtain ⟨members, rfl, -⟩ := object_of_step word hstep
  refine ⟨members, hplace, ?_⟩
  rw [assignAt, hplace]
  rfl

/-- What stands at the key afterwards. -/
theorem at?_assigned {path : List String} {key : String} {members : List (String × Json)}
    (value : Json) (present : manifest.at? path = some (.object members)) :
    (manifest.modifyAt (fun _ => (Json.object members).withMember key value) path).at?
      (path ++ [key]) = some value := by
  rw [at?_modifyAt_append, present]
  simp only [Json.withMember, Option.bind_some, Json.at?, Json.step?, Table.get?_insert_self]

/-- What an assignment has made of the key. -/
theorem assignAt_ok {path : List String} {key : String} {value manifest changed : Json}
    (h : assignAt path key value manifest = .ok changed) :
    changed.at? (path ++ [key]) = (manifest.at? path).map fun _ => value := by
  unfold assignAt at h
  cases hplace : manifest.at? path with
  | none =>
    rw [hplace] at h
    cases h
    rw [at?_append, hplace]
    rfl
  | some place =>
    rw [hplace] at h
    have set : ∀ members : Table Json, members.get? key = some value →
        (manifest.modifyAt (fun _ => .object members) path).at? (path ++ [key]) = some value := by
      intro members hmember
      rw [at?_modifyAt_append, hplace]
      simp only [Json.at?, Json.step?, hmember, Option.bind_some]
    cases place with
    | object members =>
      cases h
      exact set _ (Table.get?_insert_self _ _ _)
    | null =>
      cases h
      exact set _ (Table.get?_insert_self [] key value)
    | bool | number | string | array => cases h

/-- What is assigned below the specification stands in the object, if there was a place for it. -/
theorem at?_of_assigned (path : List String) (key : String) {value stored manifest object : Json}
    (desired : Desired ("spec" :: path ++ [key])) (retains : Retains manifest object)
    (changed : assignAt ("spec" :: path) key value (withoutServerFields stored) = .ok manifest) :
    object.at? ("spec" :: path ++ [key]) = (stored.at? ("spec" :: path)).map fun _ => value := by
  rw [retains _ desired, assignAt_ok changed, spec_withoutServerFields]

/-- The service of the session can be given another port, and stays one. -/
theorem serviceEdit_shape (shape : ServiceShape s served manifest) (port : UInt16) :
    ∃ changed, (serviceEdit s.service port).change manifest = .ok changed ∧
      ServiceShape s (number16 port) changed := by
  obtain ⟨members, hplace, hassign⟩ :=
    assignAt_present ["spec", "ports", "0"] (number16 port) (by decide) shape.port
  refine ⟨_, hassign, (modifySpec_name? _ _ _).trans shape.named, ?_, ?_, at?_assigned _ hplace⟩
  · exact (at?_modifyAt_apart _ manifest ["spec"] ["0"] [] (by decide)).trans shape.selector
  · have htarget := (at?_append manifest ["spec", "ports", "0"] ["targetPort"]).symm.trans
      shape.target
    refine (at?_modifyAt_append _ manifest ["spec", "ports", "0"] ["targetPort"]).trans ?_
    rw [hplace] at htarget ⊢
    exact (at?_withMember_of_ne (.object members) _ [] (by decide)).trans htarget

/-- The route of the session can be led to another port, and stays one. -/
theorem routeEdit_shape (shape : RouteShape s routed manifest) (port : UInt16) :
    ∃ changed, (routeEdit s.route port).change manifest = .ok changed ∧
      RouteShape s (number16 port) changed := by
  obtain ⟨members, hplace, hassign⟩ :=
    assignAt_present (destinationPath ++ ["port"]) (number16 port) (by decide) shape.port
  exact ⟨_, hassign, (modifySpec_name? _ _ _).trans shape.named, at?_assigned _ hplace⟩

/-! ### Plans -/

/-- The plan creates the objects of the session, of their shape. -/
structure SessionOf (plan : Plan) (s : SessionParts) : Prop where
  form : PlanForm plan.units
  refs : plan.units.map PlanUnit.ref = s.units
  pod : ∃ u ∈ plan.units, u.ref = s.pod ∧ PodShape s u.manifest
  service : ∃ u ∈ plan.units, u.ref = s.service ∧ ServiceShape s s.port u.manifest
  route : ∃ u ∈ plan.units, u.ref = s.route ∧ RouteShape s s.port u.manifest

/-- The plan of a session has its shape and its address, and its suffix is found in the name of the
pod if it has no hyphen. -/
theorem sessionOf_build {config : Config} {request : WorkloadRequest} {suffix : String}
    {plan : Plan} (kind : request.kind = .session) (plain : '-' ∉ suffix.toList)
    (built : Plan.build config request suffix = .ok plan) :
    ∃ s url, SessionOf plan s ∧ plan.access = some (.url url) ∧
      ∀ fresh, resetSuffix request s.units fresh = suffix := by
  have form := planForm_of_build built
  obtain ⟨image, resources, owner, -, -, -, rfl⟩ := sessionPlan_assemble kind built
  let id := Session.Identity.of request owner suffix (resolveNamespace request config.session.ns)
    (Session.port config.session request)
  let s : SessionParts := {
    pod := ⟨.pod, id.ns, id.name⟩
    service := ⟨.service, id.ns, id.serviceName⟩
    route := ⟨.virtualService, id.ns, id.name⟩
    labels := .ofTexts id.labels
    port := number16 id.port
    pod_kind := rfl
    service_kind := rfl
    route_kind := rfl }
  refine ⟨s, _, ⟨form, rfl, ?_, ?_, ?_⟩, rfl, fun fresh => ?_⟩
  · exact ⟨_, List.mem_cons_self, rfl, rfl, rfl, rfl, _, rfl, rfl⟩
  · exact ⟨_, List.mem_cons_of_mem _ List.mem_cons_self, rfl, rfl, rfl, rfl, rfl⟩
  · exact ⟨_, List.mem_cons_of_mem _ (List.mem_cons_of_mem _ List.mem_cons_self), rfl, rfl, rfl⟩
  · have hsuffix : Lifecycle.recordedSuffix? request.kind s.units =
        Lifecycle.nameSuffix? s!"{owner}-{suffix}" := by
      rw [kind]
      rfl
    rw [resetSuffix, hsuffix, nameSuffix?_hyphen owner suffix plain]
    rfl

end ClusterProvisioning.Proofs
