import ClusterProvisioning.Proofs.EditDifferences
import ClusterProvisioning.Proofs.JsonChanges

/-!
# Edits that have been made

An object that an edit made is left as it is when the same edit is made of it again (`Steady`): the
fields that the cluster fills in are gone, what the edit sets is there, and no node port is missing.
Its status is taken off and given back. None of this depends on what the object was before, nor on
whether it has a place for what is set.
-/

namespace ClusterProvisioning.Proofs
open MemoryCluster SessionUpdate

variable {u : SessionUpdate} {changes : Table Json} {gpu : Option UInt64}

/-- The object comes out as it is when the edit is made of it, however many node ports were handed
out before. -/
def Steady (edit : Edit) (object : Json) : Prop :=
  ∃ manifest, edit.change (withoutServerFields object) = .ok manifest ∧
    (edit.target.kind.patchableInPlace = false →
      Manifest.name? manifest = some edit.target.name) ∧
    ∀ used, (assignNodePorts used (resubmitted edit.target object manifest)).1 = object

/-! ### Fields of the cluster -/

/-- The metadata without what the cluster fills in. -/
def withoutFilled (metadata : Json) : Json :=
  serverFields.foldl Json.withoutMember metadata

theorem withoutFilled_again (metadata : Json) :
    withoutFilled (withoutFilled metadata) = withoutFilled metadata :=
  withoutMembers_of_absent (withoutMembers_self metadata (by decide))

theorem withoutFilled_withNamespace (metadata ns : Json) :
    withoutFilled ((withoutFilled metadata).withMember "namespace" ns) =
      (withoutFilled metadata).withMember "namespace" ns := by
  apply withoutMembers_of_absent
  intro name hname
  have other : "namespace" ≠ name := by
    rintro rfl
    exact absurd hname (by decide)
  rw [at?_withMember_of_ne _ _ [] other]
  exact withoutMembers_self metadata (by decide) name hname

/-- The cluster has filled in nothing. -/
theorem withoutServerFields_self {object : Json} (status : object.at? ["status"] = none)
    (metadata : Absorbs object withoutFilled ["metadata"]) : withoutServerFields object = object := by
  rw [withoutServerFields, withoutMember_of_absent status]
  exact metadata

theorem withoutServerFields_metadata (object : Json) :
    Absorbs (withoutServerFields object) withoutFilled ["metadata"] :=
  absorbs_modifyAt _ fun metadata _ => withoutFilled_again metadata

/-! ### Node ports -/

theorem assignNodePorts_cases (manifest : Json) :
    (∀ used, (assignNodePorts used manifest).1 = manifest) ∨
      ∃ ports, Manifest.wantsNodePorts manifest = true ∧
        manifest.at? ["spec", "ports"] = some (.array ports) ∧
        ∀ used, (assignNodePorts used manifest).1 =
          manifest.modifyAt (fun _ => .array (assignPorts used ports).1) ["spec", "ports"] := by
  unfold assignNodePorts
  cases wanted : Manifest.wantsNodePorts manifest with
  | false => exact .inl fun used => rfl
  | true =>
    cases hports : (manifest.at? ["spec", "ports"]).bind Json.items? with
    | none => exact .inl fun used => rfl
    | some ports =>
      obtain ⟨place, hplace, hitems⟩ := Option.bind_eq_some_iff.mp hports
      obtain ⟨rfl⟩ : place = .array ports := by
        cases place <;> cases hitems
        rfl
      exact .inr ⟨ports, rfl, hplace, fun used => rfl⟩

theorem assignPorts_again (used other : UInt16) (ports : List Json) :
    (assignPorts other (assignPorts used ports).1).1 = (assignPorts used ports).1 := by
  induction ports generalizing used other with
  | nil => rfl
  | cons port ports ih =>
    cases port with
    | object members =>
      cases hport : Table.get? members "nodePort" with
      | some pinned => simp only [assignPorts, hport, ih]
      | none => simp only [assignPorts, hport, Table.get?_insert_self, ih]
    | null | bool | number | string | array => simp only [assignPorts, ih]

/-- An object that is stored misses no node port. -/
theorem assignNodePorts_again (used other : UInt16) (manifest : Json) :
    (assignNodePorts other (assignNodePorts used manifest).1).1 =
      (assignNodePorts used manifest).1 := by
  rcases assignNodePorts_cases manifest with same | ⟨ports, wanted, listed, filled⟩
  · rw [same, same]
  · let assigned := Json.array (assignPorts used ports).1
    have hwanted : Manifest.wantsNodePorts
        (manifest.modifyAt (fun _ => assigned) ["spec", "ports"]) = true := by
      rw [← wanted]
      exact wantsNodePorts_congr (at?_modifyAt_apart _ manifest ["spec"] [] [] (by decide))
    have hlisted : (manifest.modifyAt (fun _ => assigned) ["spec", "ports"]).at? ["spec", "ports"] =
        some assigned := by
      have h := at?_modifyAt_append (fun _ => assigned) manifest ["spec", "ports"] []
      rwa [listed] at h
    rw [filled, assignNodePorts, if_pos hwanted, hlisted]
    simp only [assigned, Option.bind_some, Json.items?, assignPorts_again]
    rw [modifyAt_modifyAt]

theorem Absorbs.stored {manifest : Json} {f : Json → Json} {path : List String}
    (absorbs : Absorbs manifest f path) (used : UInt16)
    (apart : ∀ ports, Absorbs (manifest.modifyAt (fun _ => .array ports) ["spec", "ports"]) f path) :
    Absorbs (assignNodePorts used manifest).1 f path := by
  rcases assignNodePorts_cases manifest with same | ⟨ports, -, -, filled⟩
  · rw [same]
    exact absorbs
  · rw [filled]
    exact apart _

/-- The status of an object says nothing about its node ports. -/
theorem assignNodePorts_withStatus (used : UInt16) (manifest status : Json) :
    (assignNodePorts used (manifest.withMember "status" status)).1 =
      (assignNodePorts used manifest).1.withMember "status" status := by
  have spec : ∀ path, (manifest.withMember "status" status).at? ("spec" :: path) =
      manifest.at? ("spec" :: path) := fun path => at?_withMember_of_ne manifest status path (by decide)
  unfold assignNodePorts
  rw [wantsNodePorts_congr (spec ["type"]), spec]
  split
  · split
    · exact withMember_modifyAt _ manifest status ["ports"] (by decide)
    · rfl
  · rfl

/-! ### Amounts -/

theorem changes_stored (checked : u.amountChanges = .ok changes) (amounts : Table Json) :
    ∀ entry ∈ changes,
      Table.insert (Table.extend amounts changes) entry.1 entry.2 = Table.extend amounts changes := by
  have distinct : changes.Pairwise fun a b => a.1 ≠ b.1 := by
    obtain ⟨-, -, rfl⟩ := amountChanges_ok checked
    cases u.cpu <;> cases u.memory <;> simp [amountEntry]
  exact fun entry hentry => Table.insert_extend_of_mem amounts distinct hentry

theorem changes_ne_gpu (checked : u.amountChanges = .ok changes) :
    ∀ entry ∈ changes, entry.1 ≠ gpuResource := by
  obtain ⟨-, -, rfl⟩ := amountChanges_ok checked
  cases u.cpu <;> cases u.memory <;> simp [amountEntry, gpuResource]

theorem setAmounts_again (checked : u.amountChanges = .ok changes) (gpu : Option UInt64)
    (amounts : Json) :
    setAmounts changes gpu (setAmounts changes gpu amounts) = setAmounts changes gpu amounts := by
  cases amounts with
  | object amounts =>
    have stored := changes_stored checked amounts
    have apart := changes_ne_gpu checked
    cases gpu with
    | none => simp only [setAmounts, Table.extend_of_stored stored]
    | some n =>
      by_cases hzero : n = 0
      · have erased : Table.extend (Table.erase (Table.extend amounts changes) gpuResource) changes =
            Table.erase (Table.extend amounts changes) gpuResource :=
          Table.extend_of_stored fun entry hentry =>
            Table.insert_erase_of_stored (apart entry hentry) (stored entry hentry)
        simp only [setAmounts, if_pos hzero, erased,
          Table.erase_of_absent (Table.get?_erase_self _ _)]
      · have inserted : ∀ value,
            Table.extend (Table.insert (Table.extend amounts changes) gpuResource value) changes =
              Table.insert (Table.extend amounts changes) gpuResource value := fun value =>
          Table.extend_of_stored fun entry hentry =>
            Table.insert_insert_of_stored (apart entry hentry) (stored entry hentry)
        simp only [setAmounts, if_neg hzero, inserted, Table.insert_insert_self]
  | null | bool | number | string | array => rfl

theorem setSection_again (checked : u.amountChanges = .ok changes) (gpu : Option UInt64)
    (resources : Json) (name : String) :
    setSection changes gpu (setSection changes gpu resources name) name =
      setSection changes gpu resources name := by
  cases resources with
  | object sections =>
    simp only [setSection, Table.get?_insert_self, Option.getD_some, setAmounts_again checked,
      Table.insert_insert_self]
  | null | bool | number | string | array => rfl

/-- A section that is set already stays so when another one is set. -/
theorem setSection_of_set {resources : Json} {name other : String} (h : name ≠ other)
    (set : setSection changes gpu resources name = resources) :
    setSection changes gpu (setSection changes gpu resources other) name =
      setSection changes gpu resources other := by
  cases resources with
  | object sections =>
    have stored := Json.object.inj set
    simp only [setSection, Table.get?_insert_of_ne _ _ h.symm,
      Table.insert_insert_of_stored h stored]
  | null | bool | number | string | array => rfl

theorem setContainer_again (checked : u.amountChanges = .ok changes) (gpu : Option UInt64)
    (container : Json) :
    setContainer changes gpu (setContainer changes gpu container) =
      setContainer changes gpu container := by
  have sections : ∀ resources,
      ["limits", "requests"].foldl (setSection changes gpu)
          (["limits", "requests"].foldl (setSection changes gpu) resources) =
        ["limits", "requests"].foldl (setSection changes gpu) resources := by
    intro resources
    have limits := setSection_of_set (show "limits" ≠ "requests" by decide)
      (setSection_again checked gpu resources "limits")
    simp only [List.foldl_cons, List.foldl_nil, limits, setSection_again checked]
  cases container with
  | object members =>
    simp only [setContainer, Table.get?_insert_self, Option.getD_some, sections,
      Table.insert_insert_self]
  | null | bool | number | string | array => rfl

/-! ### Assignments -/

/-- The value of an assignment stands at the key already, or there is no place for it. -/
def Assigned (path : List String) (key : String) (value manifest : Json) : Prop :=
  ∀ place, manifest.at? path = some place →
    assign key value place = .ok place ∧ Absorbs manifest (fun _ => place) path

variable {path : List String} {key : String} {value : Json}

theorem Assigned.unchanged {manifest : Json} (assigned : Assigned path key value manifest) :
    assignAt path key value manifest = .ok manifest := by
  unfold assignAt
  cases hplace : manifest.at? path with
  | none => rfl
  | some place =>
    obtain ⟨same, absorbs⟩ := assigned place hplace
    simp only [same]
    exact congrArg Except.ok absorbs

theorem assign_again {place changed : Json} (h : assign key value place = .ok changed) :
    assign key value changed = .ok changed := by
  cases place with
  | object members =>
    cases h
    simp only [assign, Table.insert_insert_self]
  | null =>
    cases h
    simp only [assign, Table.insert, if_true]
  | bool | number | string | array => cases h

theorem assigned_of_assignAt {manifest changed : Json}
    (h : assignAt path key value manifest = .ok changed) : Assigned path key value changed := by
  unfold assignAt at h
  cases hplace : manifest.at? path with
  | none =>
    rw [hplace] at h
    cases h
    intro place present
    cases hplace.symm.trans present
  | some place =>
    rw [hplace] at h
    cases hassign : assign key value place with
    | error failure =>
      simp only [hassign] at h
      cases h
    | ok assigned =>
      simp only [hassign] at h
      cases h
      intro found present
      have there := at?_modifyAt_append (fun _ => assigned) manifest path []
      rw [List.append_nil, hplace] at there
      cases there.symm.trans present
      exact ⟨assign_again hassign, absorbs_modifyAt path fun _ _ => rfl⟩

theorem Assigned.apart {manifest : Json} (front : List String) {name other : String}
    {rest : List String} (assigned : Assigned (front ++ name :: rest) key value manifest)
    (f : Json → Json) (others : List String) (apart : Apart other name) :
    Assigned (front ++ name :: rest) key value (manifest.modifyAt f (front ++ other :: others)) := by
  intro place present
  rw [at?_modifyAt_apart f manifest front others rest apart] at present
  obtain ⟨same, absorbs⟩ := assigned place present
  exact ⟨same, absorbs.apart front f others apart.symm⟩

/-- Storing an object leaves what is assigned apart from the ports. -/
theorem Assigned.stored {manifest : Json} {name : String} {rest : List String}
    (assigned : Assigned ("spec" :: name :: rest) key value manifest) (apart : Apart "ports" name)
    (used : UInt16) :
    Assigned ("spec" :: name :: rest) key value (assignNodePorts used manifest).1 := by
  rcases assignNodePorts_cases manifest with same | ⟨ports, -, -, filled⟩
  · rw [same]
    exact assigned
  · rw [filled]
    exact assigned.apart ["spec"] _ [] apart

/-- Storing a service leaves what is assigned in its first port, node ports apart. -/
theorem Assigned.stored_port {manifest : Json}
    (assigned : Assigned ["spec", "ports", "0"] key value manifest) (other : key ≠ "nodePort")
    (used : UInt16) :
    Assigned ["spec", "ports", "0"] key value (assignNodePorts used manifest).1 := by
  rcases assignNodePorts_cases manifest with same | ⟨ports, -, listed, filled⟩
  · rw [same]
    exact assigned
  rw [filled]
  have position : Json.position? "0" = some 0 := by decide
  have first : ∀ items : List Json, (Json.array items).at? ["0"] = items[0]? := by
    intro items
    rw [Json.at?, Json.step?, position]
    exact Option.bind_fun_some items[0]?
  have asked : manifest.at? ["spec", "ports", "0"] = ports[0]? := by
    rw [show ["spec", "ports", "0"] = ["spec", "ports"] ++ ["0"] from rfl, at?_append, listed]
    exact first ports
  have given := at?_modifyAt_append (fun _ => .array (assignPorts used ports).1) manifest
    ["spec", "ports"] ["0"]
  rw [listed, Option.bind_some, first] at given
  intro place present
  have hplace : (assignPorts used ports).1[0]? = some place := given.symm.trans present
  constructor
  · rcases assignPorts_item used ports 0 with same | ⟨members, nodePort, hport, -, hfilled⟩
    · exact (assigned place (asked.trans (same.symm.trans hplace))).1
    · cases hfilled.symm.trans hplace
      have stored := (assigned _ (asked.trans hport)).1
      simp only [assign, Except.ok.injEq, Json.object.injEq] at stored
      simp only [Json.withMember, assign, Table.insert_insert_of_stored other stored]
  · have absorbs : Absorbs (.array (assignPorts used ports).1) (fun _ => place) ["0"] := by
      refine absorbs_item position fun item hitem => ?_
      exact Option.some.inj (hplace.symm.trans hitem)
    rw [Absorbs, show ["spec", "ports", "0"] = ["spec", "ports"] ++ ["0"] from rfl, modifyAt_append,
      modifyAt_modifyAt]
    exact modifyAt_congr _ fun _ _ => absorbs

/-! ### Pods -/

/-- The manifest of a pod with other resources. -/
def editedPod (changes : Table Json) (gpu : Option UInt64) (stored : Json) : Json :=
  (withoutServerFields stored).modifyAt (setContainer changes gpu) containerPath

/-- What a cluster stores of a pod that is created again with other resources. -/
def recreatedPod (changes : Table Json) (gpu : Option UInt64) (ns : String) (used : UInt16)
    (stored : Json) : Json :=
  (assignNodePorts used (Manifest.placedIn ns (editedPod changes gpu stored))).1

theorem recreatedPod_freed (ns : String) (used : UInt16) (stored : Json) :
    Absorbs (recreatedPod changes gpu ns used stored) withoutFilled ["metadata"] := by
  have edited : Absorbs (editedPod changes gpu stored) withoutFilled ["metadata"] :=
    (withoutServerFields_metadata stored).apart [] _ ["containers", "0"] (by decide)
  have placed : Absorbs (Manifest.placedIn ns (editedPod changes gpu stored)) withoutFilled
      ["metadata"] := by
    refine absorbs_modifyAt _ fun metadata hmetadata => ?_
    rw [← edited.fixed hmetadata]
    exact withoutFilled_withNamespace metadata _
  exact placed.stored used fun _ => placed.apart [] _ ["ports"] (by decide)

theorem recreatedPod_placed (ns : String) (used : UInt16) (stored : Json) :
    Manifest.placedIn ns (recreatedPod changes gpu ns used stored) =
      recreatedPod changes gpu ns used stored := by
  have placed : Absorbs (Manifest.placedIn ns (editedPod changes gpu stored))
      (fun metadata => metadata.withMember "namespace" (.string ns)) ["metadata"] :=
    absorbs_modifyAt _ fun metadata _ => withMember_withMember metadata _ _ _
  exact placed.stored used fun _ => placed.apart [] _ ["ports"] (by decide)

theorem recreatedPod_resourced (checked : u.amountChanges = .ok changes) (ns : String)
    (used : UInt16) (stored : Json) :
    Absorbs (recreatedPod changes gpu ns used stored) (setContainer changes gpu) containerPath := by
  have edited : Absorbs (editedPod changes gpu stored) (setContainer changes gpu) containerPath :=
    absorbs_modifyAt _ fun container _ => setContainer_again checked gpu container
  have placed : Absorbs (Manifest.placedIn ns (editedPod changes gpu stored))
      (setContainer changes gpu) containerPath := edited.apart [] _ [] (by decide)
  exact placed.stored used fun _ => placed.apart ["spec"] _ [] (by decide)

theorem recreatedPod_retains (ns : String) (used : UInt16) (stored : Json) :
    Retains (editedPod changes gpu stored) (recreatedPod changes gpu ns used stored) :=
  (retains_placedIn ns _).trans (retains_of_stored ⟨used, rfl⟩)

theorem recreatedPod_name (ns : String) (used : UInt16) (stored : Json) :
    Manifest.name? (recreatedPod changes gpu ns used stored) = Manifest.name? stored := by
  rw [(recreatedPod_retains ns used stored).name?, ← (retains_withoutServerFields stored).name?]
  exact modifySpec_name? _ _ _

theorem recreatedPod_status (ns : String) (used : UInt16) (stored : Json) :
    (recreatedPod changes gpu ns used stored).at? ["status"] = none := by
  have placed := at?_modifyAt_apart (fun metadata => metadata.withMember "namespace" (.string ns))
    (editedPod changes gpu stored) [] [] [] (show Apart "metadata" "status" by decide)
  have edited := at?_modifyAt_apart (setContainer changes gpu) (withoutServerFields stored) []
    ["containers", "0"] [] (show Apart "spec" "status" by decide)
  have apart : Apart "spec" "status" := by decide
  rw [recreatedPod, storedAs_apart ⟨used, rfl⟩ apart]
  exact placed.trans (edited.trans (withoutServerFields_status stored))

theorem recreatedPod_set (checked : u.amountChanges = .ok changes) (ns : String) (used : UInt16)
    {stored : Json} {members : Table Json}
    (present : (withoutServerFields stored).at? containerPath = some (.object members)) :
    setResources changes gpu (recreatedPod changes gpu ns used stored) =
      .ok (recreatedPod changes gpu ns used stored) := by
  have edited := at?_modifyAt_append (setContainer changes gpu) (withoutServerFields stored)
    containerPath []
  have container : (recreatedPod changes gpu ns used stored).at? containerPath =
      some (setContainer changes gpu (.object members)) := by
    rw [present] at edited
    exact (recreatedPod_retains ns used stored _ (desired_container [])).trans edited
  unfold setResources
  rw [show ["spec", "containers", "0"] = containerPath from rfl, container]
  exact congrArg Except.ok (recreatedPod_resourced checked ns used stored)

/-- A pod that was created again with other resources is left as it is by the same edit. -/
theorem podEdit_steady {pod : Ref} {stored manifest object : Json}
    (checked : u.amountChanges = .ok changes) (recreated : pod.kind.patchableInPlace = false)
    (own : Manifest.name? stored = some pod.name)
    (changed : (podEdit pod changes u.gpu).change (withoutServerFields stored) = .ok manifest)
    (submitted : StoredAs (Manifest.placedIn pod.ns manifest) object) :
    Steady (podEdit pod changes u.gpu) object := by
  obtain ⟨members, present, rfl⟩ := podEdit_ok changed
  obtain ⟨used, rfl⟩ : ∃ used, object = recreatedPod changes u.gpu pod.ns used stored := submitted
  refine ⟨recreatedPod changes u.gpu pod.ns used stored, ?_, fun _ => ?_, fun other => ?_⟩
  · rw [withoutServerFields_self (recreatedPod_status pod.ns used stored)
      (recreatedPod_freed pod.ns used stored)]
    exact congrArg (Except.mapError _) (recreatedPod_set checked pod.ns used present)
  · exact (recreatedPod_name pod.ns used stored).trans own
  · have placed : resubmitted pod (recreatedPod changes u.gpu pod.ns used stored)
        (recreatedPod changes u.gpu pod.ns used stored) =
        recreatedPod changes u.gpu pod.ns used stored :=
      (if_neg (Bool.eq_false_iff.mp recreated)).trans (recreatedPod_placed pod.ns used stored)
    exact (congrArg (fun manifest => (assignNodePorts other manifest).1) placed).trans
      (assignNodePorts_again used other _)

/-! ### Patched objects -/

theorem withStatusOf_given {manifest : Json} (bare : manifest.at? ["status"] = none)
    (status : Json) :
    withStatusOf (manifest.withMember "status" status) manifest =
      manifest.withMember "status" status := by
  cases manifest with
  | object members =>
    have absent : Table.get? members "status" = none := (at?_member _ _).symm.trans bare
    simp only [withStatusOf, Json.withMember, Json.member?, Table.get?_insert_self, absent]
  | null | bool | number | string | array => rfl

theorem withStatusOf_self (manifest : Json) : withStatusOf manifest manifest = manifest := by
  unfold withStatusOf
  cases manifest.member? "status" <;> rfl

/-- An object that was patched is left as it is by the same edit. -/
theorem patched_steady {edit : Edit} {stored manifest object : Json} {rest : List String}
    (inPlace : edit.target.kind.patchableInPlace = true)
    (assigns : edit.change = assignAt ("spec" :: rest) key value)
    (changed : edit.change (withoutServerFields stored) = .ok manifest)
    (submitted : StoredAs (withStatusOf stored manifest) object)
    (kept : ∀ used, Assigned ("spec" :: rest) key value (assignNodePorts used manifest).1) :
    Steady edit object := by
  rw [assigns] at changed
  obtain ⟨used, rfl⟩ := submitted
  let assigned := (assignNodePorts used manifest).1
  have status : assigned.at? ["status"] = none := by
    rw [storedAs_apart ⟨used, rfl⟩ (by decide), assignAt_apart changed (by decide)]
    exact withoutServerFields_status stored
  have freed : Absorbs manifest withoutFilled ["metadata"] := by
    have before := withoutServerFields_metadata stored
    rcases assignAt_modified changed with rfl | ⟨place, rfl⟩
    · exact before
    · exact before.apart [] _ rest (by decide)
  have freed : Absorbs assigned withoutFilled ["metadata"] :=
    freed.stored used fun _ => freed.apart [] _ ["ports"] (by decide)
  have bare : withoutServerFields assigned = assigned := withoutServerFields_self status freed
  have again : edit.change assigned = .ok assigned := by
    rw [assigns]
    exact (kept used).unchanged
  have own : ∀ object : Json, withoutServerFields object = assigned →
      (∀ other, (assignNodePorts other (withStatusOf object assigned)).1 = object) →
      Steady edit object := by
    intro object freed stored
    refine ⟨assigned, by rw [freed, again], fun recreated => ?_, fun other => ?_⟩
    · cases inPlace.symm.trans recreated
    · rw [resubmitted, if_pos inPlace, stored]
  rcases withStatusOf_cases stored manifest with ⟨given, h⟩ | h
  · rw [h, assignNodePorts_withStatus]
    refine own _ ?_ fun other => ?_
    · rw [withoutServerFields, withoutMember_withMember]
      exact bare
    · rw [withStatusOf_given status, assignNodePorts_withStatus, assignNodePorts_again]
  · rw [h]
    refine own assigned bare fun other => ?_
    rw [withStatusOf_self]
    exact assignNodePorts_again used other manifest

theorem serviceEdit_steady {service : Ref} {port : UInt16} {stored manifest object : Json}
    (inPlace : service.kind.patchableInPlace = true)
    (changed : (serviceEdit service port).change (withoutServerFields stored) = .ok manifest)
    (submitted : StoredAs (withStatusOf stored manifest) object) :
    Steady (serviceEdit service port) object :=
  patched_steady inPlace rfl changed submitted fun used =>
    (assigned_of_assignAt changed).stored_port (by decide) used

theorem routeEdit_steady {route : Ref} {port : UInt16} {stored manifest object : Json}
    (inPlace : route.kind.patchableInPlace = true)
    (changed : (routeEdit route port).change (withoutServerFields stored) = .ok manifest)
    (submitted : StoredAs (withStatusOf stored manifest) object) :
    Steady (routeEdit route port) object :=
  patched_steady inPlace rfl changed submitted fun used =>
    (assigned_of_assignAt changed).stored (by decide) used

end ClusterProvisioning.Proofs
