import ClusterProvisioning.Proofs.EditEffects
import ClusterProvisioning.Proofs.SessionShape

/-!
# What an accepted update has done

An update that is accepted set what it asks for wherever the live objects have a place for it: the
amounts in the limits and the requests of the first container of the pod, the port in the service
and in the route (`update_applied`). An object without such a place is replaced as it was, and the
update is accepted all the same.
-/

namespace ClusterProvisioning.Proofs
open Program MemoryCluster Plan SessionUpdate

variable {units : List Ref} {u : SessionUpdate} {changes : Table Json} {gpu : Option UInt64}

/-- Members can be set in what stands at the path: it is an object, or nothing yet. -/
def Fillable (j : Json) (path : List String) : Prop :=
  ∀ value, j.at? path = some value → value.isObject = true

/-- The amounts are those that the update gives. -/
structure Carries (u : SessionUpdate) (amounts : Json) : Prop where
  cpu : ∀ cpu, u.cpu = some cpu → amounts.at? ["cpu"] = some (.string (Text.trim cpu))
  memory : ∀ memory, u.memory = some memory →
    amounts.at? ["memory"] = some (.string (Text.trim memory))
  gpu : ∀ n, u.gpu = some n →
    amounts.at? [gpuResource] = if n = 0 then none else some (.string (toString n.toNat))

def resourcesPath : List String := containerPath ++ ["resources"]

/-- The resources that an update gives stand in a section of the first container of a pod, if the
pod had a place for them. -/
structure Resourced (u : SessionUpdate) (stored object : Json) (name : String) : Prop where
  set : Fillable stored resourcesPath → Fillable stored (resourcesPath ++ [name]) →
    ∃ amounts, object.at? (resourcesPath ++ [name]) = some amounts ∧ Carries u amounts
  kept : ¬(Fillable stored resourcesPath ∧ Fillable stored (resourcesPath ++ [name])) →
    object.at? (resourcesPath ++ [name]) = stored.at? (resourcesPath ++ [name])

/-- What an update that is accepted has done. -/
structure Fulfilled (units : List Ref) (u : SessionUpdate) (c c' : MemoryCluster)
    (replaced : List Ref) : Prop where
  /-- The pod is made again under the name that it has itself. -/
  pod : u.touchesResources = true → ∃ pod made stored object,
    unitOf? units .pod = some pod ∧ c.object? pod = some stored ∧
    Manifest.name? stored = some made.name ∧ made = ⟨.pod, pod.ns, made.name⟩ ∧
    made ∈ replaced ∧ c'.object? made = some object ∧
    ∀ name ∈ ["limits", "requests"], Resourced u stored object name
  service : ∀ port, u.servicePort = some port → ∃ service stored object,
    unitOf? units .service = some service ∧ c.object? service = some stored ∧
    service ∈ replaced ∧ c'.object? service = some object ∧
    object.at? servicePortPath =
      (stored.at? ["spec", "ports", "0"]).map fun _ => number16 port
  route : ∀ port route, u.servicePort = some port →
    unitOf? units .virtualService = some route → ∃ stored object,
    c.object? route = some stored ∧ route ∈ replaced ∧ c'.object? route = some object ∧
    object.at? destinationPortPath =
      (stored.at? (destinationPath ++ ["port"])).map fun _ => number16 port

/-! ### Amounts -/

theorem setAmounts_at? (amounts : Table Json) {name : String} (h : name ≠ gpuResource) :
    (setAmounts changes gpu (.object amounts)).at? [name] =
      (Table.extend amounts changes).get? name := by
  unfold setAmounts
  rw [at?_member]
  cases gpu with
  | none => rfl
  | some n =>
    dsimp only
    split
    · exact Table.get?_erase_of_ne _ h.symm
    · exact Table.get?_insert_of_ne _ _ h.symm

theorem setAmounts_carries (checked : u.amountChanges = .ok changes) (amounts : Table Json) :
    Carries u (setAmounts changes u.gpu (.object amounts)) := by
  obtain ⟨-, -, rfl⟩ := amountChanges_ok checked
  have distinct : (amountEntry "cpu" u.cpu ++ amountEntry "memory" u.memory).Pairwise
      fun a b => a.1 ≠ b.1 := by
    cases u.cpu <;> cases u.memory <;> simp [amountEntry]
  constructor
  · intro cpu hcpu
    rw [setAmounts_at? _ (by decide)]
    exact Table.get?_extend_of_mem _ distinct (by simp [hcpu, amountEntry])
  · intro memory hmemory
    rw [setAmounts_at? _ (by decide)]
    exact Table.get?_extend_of_mem _ distinct (by simp [hmemory, amountEntry])
  · intro n hgpu
    rw [hgpu]
    simp only [setAmounts, at?_member]
    split
    · exact Table.get?_erase_self _ _
    · exact Table.get?_insert_self _ _ _

/-! ### Containers -/

/-- What stands in a section of the resources of a container once they are set. -/
theorem setContainer_section (members : Table Json) {name : String}
    (h : name ∈ ["limits", "requests"]) :
    (setContainer changes gpu (.object members)).at? ["resources", name] =
      match (Table.get? members "resources").getD (.object []) with
      | .object sections =>
        some (setAmounts changes gpu ((Table.get? sections name).getD (.object [])))
      | other => other.at? [name] := by
  rw [setContainer_resources]
  cases (Table.get? members "resources").getD (.object []) with
  | object sections =>
    have present : ∀ members value, (Json.object (Table.insert members name value)).at? [name] =
        some value := fun members value =>
      (at?_member _ _).trans (Table.get?_insert_self members name value)
    rcases List.mem_pair.mp h with rfl | rfl
    · exact (setSection_of_ne changes gpu _ (by decide)).trans (present _ _)
    · refine (present _ _).trans ?_
      dsimp only
      rw [Table.get?_insert_of_ne _ _ (by decide)]
  | null | bool | number | string | array => rfl

theorem fillable_of_none {j : Json} {path : List String} (h : j.at? path = none) :
    Fillable j path := by
  intro value hvalue
  cases h.symm.trans hvalue

theorem fillable_of_object {j : Json} {path : List String} {members : Table Json}
    (h : j.at? path = some (.object members)) : Fillable j path := by
  intro value hvalue
  cases h.symm.trans hvalue
  rfl

/-- A section is set if it and the resources around it can be filled, else it stays. -/
theorem setContainer_fills (changes : Table Json) (gpu : Option UInt64) (members : Table Json)
    {name : String} (h : name ∈ ["limits", "requests"]) :
    let container := Json.object members
    (Fillable container ["resources"] → Fillable container ["resources", name] →
      ∃ amounts, (setContainer changes gpu container).at? ["resources", name] =
        some (setAmounts changes gpu (.object amounts))) ∧
    (¬(Fillable container ["resources"] ∧ Fillable container ["resources", name]) →
      (setContainer changes gpu container).at? ["resources", name] =
        container.at? ["resources", name]) := by
  intro container
  have hresources : container.at? ["resources"] = Table.get? members "resources" :=
    at?_member members "resources"
  have hsection : container.at? ["resources", name] =
      (Table.get? members "resources").bind fun resources => resources.at? [name] := rfl
  rw [setContainer_section members h]
  cases hplace : Table.get? members "resources" with
  | none =>
    rw [hplace] at hresources hsection
    refine ⟨fun _ _ => ⟨[], rfl⟩, fun unfillable => ?_⟩
    exact absurd ⟨fillable_of_none hresources, fillable_of_none hsection⟩ unfillable
  | some resources =>
    rw [hplace] at hresources hsection
    cases resources with
    | object sections =>
      have hsection : container.at? ["resources", name] = Table.get? sections name :=
        hsection.trans (at?_member sections name)
      dsimp only [Option.getD_some]
      cases hamounts : Table.get? sections name with
      | none =>
        rw [hamounts] at hsection
        refine ⟨fun _ _ => ⟨[], rfl⟩, fun unfillable => ?_⟩
        exact absurd ⟨fillable_of_object hresources, fillable_of_none hsection⟩ unfillable
      | some amounts =>
        rw [hamounts] at hsection
        cases amounts with
        | object amounts =>
          refine ⟨fun _ _ => ⟨amounts, rfl⟩, fun unfillable => ?_⟩
          exact absurd ⟨fillable_of_object hresources, fillable_of_object hsection⟩ unfillable
        | null | bool | number | string | array =>
          refine ⟨fun _ fillable => ?_, fun _ => hsection.symm⟩
          cases fillable _ hsection
    | null | bool | number | string | array =>
      refine ⟨fun fillable => ?_, fun _ => hsection.symm⟩
      cases fillable _ hresources

/-! ### Objects that are replaced -/

theorem podEdit_ok {pod : Ref} {manifest changed : Json}
    (h : (podEdit pod changes gpu).change manifest = .ok changed) :
    ∃ members, manifest.at? containerPath = some (.object members) ∧
      changed = manifest.modifyAt (setContainer changes gpu) containerPath := by
  have hset : setResources changes gpu manifest = .ok changed := mapError_ok.mp h
  unfold setResources at hset
  split at hset
  next members present => exact ⟨members, present, (Except.ok.inj hset).symm⟩
  next => cases hset

theorem desired_container (rest : List String) : Desired (containerPath ++ rest) :=
  .spec (by decide)

/-- Below its first container an object says what it said before, apart from what is set there. -/
theorem resourced_of_set {stored manifest object : Json} {members : Table Json}
    (checked : u.amountChanges = .ok changes)
    (present : (withoutServerFields stored).at? containerPath = some (.object members))
    (changed : manifest =
      (withoutServerFields stored).modifyAt (setContainer changes u.gpu) containerPath)
    (retains : Retains manifest object) :
    ∀ name ∈ ["limits", "requests"], Resourced u stored object name := by
  intro name hname
  have before : ∀ rest, stored.at? (containerPath ++ rest) = (Json.object members).at? rest := by
    intro rest
    rw [← retains_withoutServerFields stored _ (desired_container rest), at?_append, present]
    rfl
  have after : ∀ rest, object.at? (containerPath ++ rest) =
      (setContainer changes u.gpu (.object members)).at? rest := by
    intro rest
    rw [retains _ (desired_container rest), changed, at?_modifyAt_append, present]
    rfl
  have fillable : ∀ rest, Fillable stored (containerPath ++ rest) ↔
      Fillable (.object members) rest := by
    intro rest
    unfold Fillable
    rw [before]
  obtain ⟨set, kept⟩ := setContainer_fills changes u.gpu members hname
  constructor
  · intro hresources hsection
    obtain ⟨amounts, h⟩ :=
      set ((fillable _).mp hresources) ((fillable ["resources", name]).mp hsection)
    exact ⟨_, (after _).trans h, setAmounts_carries checked amounts⟩
  · intro unfillable
    refine (after _).trans ((kept fun h => unfillable ?_).trans (before _).symm)
    exact ⟨(fillable _).mpr h.1, (fillable ["resources", name]).mpr h.2⟩

/-! ### Updates -/

/-- An update that is accepted has done what it asks for where the objects have a place for it. -/
theorem update_applied (units : List Ref) (u : SessionUpdate) (c c' : MemoryCluster)
    (replaced : List Ref) (events : List Event)
    (run : (u.run units).run gateway c = (.ok replaced, c', events)) :
    Fulfilled units u c c' replaced := by
  obtain ⟨course, served⟩ := course_of_run run
  obtain ⟨⟨w, settled⟩, edited, -⟩ := replaced_of_update course served
  constructor
  · intro touches
    obtain ⟨pod, changes, first, checked, -⟩ := work_touches settled touches
    obtain ⟨made, hmade, stored, manifest, object, replaces⟩ :=
      edited _ (.pod touches first checked)
    obtain ⟨members, present, changed⟩ := podEdit_ok replaces.changed
    obtain ⟨name, named, rfl⟩ :=
      replaces.lands.recreated ((unitOf?_patchable first).trans (by decide))
    have hname : Manifest.name? stored = some name := by
      rw [← (retains_withoutServerFields stored).name?, ← named, changed]
      exact (modifySpec_name? _ _ _).symm
    refine ⟨pod, _, stored, object, first, replaces.present, hname, ?_, hmade, replaces.live, ?_⟩
    · rw [← unitOf?_kind first]
      rfl
    · exact resourced_of_set checked present changed replaces.retains
  · intro port asked
    obtain ⟨-, service, first, -⟩ := work_port settled asked
    obtain ⟨made, hmade, stored, manifest, object, replaces⟩ := edited _ (.service asked first)
    obtain rfl := replaces.lands.inPlace ((unitOf?_patchable first).trans (by decide))
    refine ⟨_, stored, object, first, replaces.present, hmade, replaces.live, ?_⟩
    exact at?_of_assigned ["ports", "0"] "port" (.port (by decide)) replaces.retains
      replaces.changed
  · intro port route asked first
    obtain ⟨made, hmade, stored, manifest, object, replaces⟩ := edited _ (.route asked first)
    obtain rfl := replaces.lands.inPlace ((unitOf?_patchable first).trans (by decide))
    refine ⟨stored, object, replaces.present, hmade, replaces.live, ?_⟩
    exact at?_of_assigned ["http", "0", "route", "0", "destination", "port"] "number"
      (.spec (by decide)) replaces.retains replaces.changed

/-! ### Places that are there, and places that are not -/

/-- A pod with these limits and a service with these ports. -/
def labCluster (limits : Json) (ports : List Json) : MemoryCluster :=
  let named := ("metadata", Json.object [("name", .string "ada")])
  let container := Json.object [("resources", .object [("limits", limits)])]
  let pod := Json.object [named, ("spec", .object [("containers", .array [container])])]
  let service := Json.object [named, ("spec", .object [("ports", .array ports)])]
  (MemoryCluster.empty.insertObject "lab" .pod pod).insertObject "lab" .service service

def labUnits : List Ref := [⟨.pod, "lab", "ada"⟩, ⟨.service, "lab", "ada"⟩]

/-- One GPU and another port. -/
def labUpdate : SessionUpdate := ⟨none, none, some 1, some 8888⟩

theorem update_applied_lab :
    let c := labCluster (.object []) [.object [("port", number16 80)]]
    ∃ c' events, (labUpdate.run labUnits).run gateway c = (.ok labUnits, c', events) ∧
      Fulfilled labUnits labUpdate c c' labUnits := by
  intro c
  exact ⟨_, _, rfl, update_applied labUnits labUpdate c _ labUnits _ rfl⟩

/-- Limits that are null and a port that is missing stay so, and the update is accepted. -/
theorem update_accepted_unapplied :
    ∃ c' events pod service,
      (labUpdate.run labUnits).run gateway (labCluster .null []) = (.ok labUnits, c', events) ∧
      c'.object? ⟨.pod, "lab", "ada"⟩ = some pod ∧ pod.at? limitsPath = some .null ∧
      pod.at? (requestsPath ++ [gpuResource]) = some (.string "1") ∧
      c'.object? ⟨.service, "lab", "ada"⟩ = some service ∧
      service.at? servicePortPath = none :=
  ⟨_, _, _, _, rfl, rfl, rfl, rfl, rfl, rfl⟩

end ClusterProvisioning.Proofs
