import ClusterProvisioning.Proofs.AppliedUpdate
import ClusterProvisioning.Proofs.JsonDifference

/-!
# Where edits change an object

What an update and the cluster do to an object between them, each bounded by the places at which it
differs afterwards: the fields of the cluster go, the namespace is set, amounts and ports are
assigned, node ports are handed out. A pod (`PodKept`) and a patched object (`PortKept`) differ
nowhere else.
-/

namespace ClusterProvisioning.Proofs
open MemoryCluster SessionUpdate

variable {vacant : Option Json} {places : List String → Prop} {u : SessionUpdate}
  {changes : Table Json} {gpu : Option UInt64}

/-- An update asks for an amount of a resource. -/
inductive AsksFor (u : SessionUpdate) : String → Prop
  | cpu {text : String} (given : u.cpu = some text) : AsksFor u "cpu"
  | memory {text : String} (given : u.memory = some text) : AsksFor u "memory"
  | gpu {n : UInt64} (given : u.gpu = some n) : AsksFor u gpuResource

/-- The places of a pod that an update can set or free. -/
inductive PodPlace (u : SessionUpdate) : List String → Prop
  | status : PodPlace u ["status"]
  | field {name : String} (filled : name ∈ serverFields) : PodPlace u ["metadata", name]
  | ns : PodPlace u ["metadata", "namespace"]
  | amount {name key : String} (set : name ∈ ["limits", "requests"]) (asks : AsksFor u key) :
      PodPlace u (resourcesPath ++ [name, key])

/-- The places of an object that an update of the port at a path can set or free. -/
inductive PortPlace (path : List String) (stored : Json) : List String → Prop
  | field {name : String} (filled : name ∈ serverFields) : PortPlace path stored ["metadata", name]
  | port : PortPlace path stored path
  | nodePort {item : String} (wanted : Manifest.wantsNodePorts stored = true)
      (missing : stored.at? ["spec", "ports", item, "nodePort"] = none) :
      PortPlace path stored ["spec", "ports", item, "nodePort"]

/-- What becomes of a pod that is given other resources, its maps made where they are missing. -/
structure PodKept (u : SessionUpdate) (ns : String) (stored object : Json) : Prop where
  container : ∃ members, stored.at? containerPath = some (.object members)
  differs : DiffersAt none (PodPlace u) stored object
  status : object.at? ["status"] = none
  fields : ∀ name ∈ serverFields, object.at? ["metadata", name] = none
  ns : object.at? ["metadata", "namespace"] = some (.string ns)

/-- What becomes of an object that is given another port at a path, a null in the place of the map
around the port making way for one. -/
structure PortKept (path : List String) (stored object : Json) : Prop where
  differs : DiffersAt (some .null) (PortPlace path stored) stored object
  /-- Apart from the map around the port, no null makes way for anything. -/
  nulls : DiffersAt none (fun place => PortPlace path stored place ∨ place = path.dropLast)
    stored object
  status : object.at? ["status"] = stored.at? ["status"]
  fields : ∀ name ∈ serverFields, object.at? ["metadata", name] = none
  pinned : ∀ item value, stored.at? ["spec", "ports", item, "nodePort"] = some value →
    object.at? ["spec", "ports", item, "nodePort"] = some value

/-! ### Fields of the cluster -/

theorem withoutMember_self (j : Json) {name : String} (word : Json.position? name = none) :
    (j.withoutMember name).at? [name] = none := by
  cases j with
  | object members => exact (at?_member _ name).trans (Table.get?_erase_self members name)
  | array items => simp only [Json.withoutMember, Json.at?, Json.step?, word, Option.bind_none]
  | null | bool | number | string => rfl

theorem withoutMembers_self (j : Json) {names : List String}
    (words : ∀ name ∈ names, Json.position? name = none) :
    ∀ name ∈ names, (names.foldl Json.withoutMember j).at? [name] = none := by
  induction names generalizing j with
  | nil => exact fun name h => nomatch h
  | cons first names ih =>
    obtain ⟨hfirst, hnames⟩ := List.forall_mem_cons.mp words
    intro name hname
    by_cases later : name ∈ names
    · exact ih (j.withoutMember first) hnames name later
    · obtain rfl : name = first := (List.mem_cons.mp hname).resolve_right later
      exact (at?_withoutMembers [] _ later).trans (withoutMember_self j hfirst)

theorem withoutServerFields_status (object : Json) :
    (withoutServerFields object).at? ["status"] = none :=
  (at?_modifyAt_apart _ _ [] [] [] (by decide)).trans (withoutMember_self object (by decide))

theorem withoutServerFields_fields (object : Json) :
    ∀ name ∈ serverFields, (withoutServerFields object).at? ["metadata", name] = none := by
  intro name hname
  refine (at?_modifyAt_append _ _ ["metadata"] [name]).trans ?_
  cases (object.withoutMember "status").at? ["metadata"] with
  | none => rfl
  | some metadata => exact withoutMembers_self metadata (by decide) name hname

theorem withoutServerFields_differs (plain : Plain vacant) (object : Json)
    (status : places ["status"]) (fields : ∀ field ∈ serverFields, places ["metadata", field]) :
    DiffersAt vacant places object (withoutServerFields object) := by
  refine (DiffersAt.withoutMember object status).trans plain ?_
  exact DiffersAt.modifyAt [] (distinct_path (by decide)) ⟨_, status⟩ fun metadata _ =>
    DiffersAt.withoutMembers plain metadata fields

theorem placedIn_differs (ns : String) (manifest : Json)
    (place : places ["metadata", "namespace"]) :
    DiffersAt vacant places manifest (Manifest.placedIn ns manifest) :=
  DiffersAt.modifyAt [] (distinct_path (by decide)) ⟨_, place⟩ fun metadata _ =>
    DiffersAt.withMember metadata _ place

theorem withStatusOf_differs (stored manifest : Json) (place : places ["status"]) :
    DiffersAt vacant places manifest (withStatusOf stored manifest) := by
  rcases withStatusOf_cases stored manifest with ⟨status, h⟩ | h
  · rw [h]
    exact DiffersAt.withMember manifest status place
  · rw [h]
    exact DiffersAt.refl _ _ _

/-! ### Amounts -/

theorem extend_differs (plain : Plain vacant) (amounts : Table Json)
    (all : ∀ entry ∈ changes, places [entry.1]) :
    DiffersAt vacant places (.object amounts) (.object (Table.extend amounts changes)) := by
  induction changes generalizing amounts with
  | nil => exact DiffersAt.refl _ _ _
  | cons entry rest ih =>
    obtain ⟨hentry, hrest⟩ := List.forall_mem_cons.mp all
    exact (DiffersAt.withMember (.object amounts) entry.2 hentry).trans plain (ih _ hrest)

theorem setAmounts_differs (plain : Plain vacant) (j : Json)
    (all : ∀ entry ∈ changes, places [entry.1]) (gpus : gpu ≠ none → places [gpuResource]) :
    DiffersAt vacant places j (setAmounts changes gpu j) := by
  cases j with
  | object amounts =>
    refine (extend_differs plain amounts all).trans plain ?_
    unfold setAmounts
    cases gpu with
    | none => exact DiffersAt.refl _ _ _
    | some n =>
      have place := gpus (Option.some_ne_none n)
      dsimp only
      split
      · exact DiffersAt.withoutMember (.object _) place
      · exact DiffersAt.withMember (.object _) _ place
  | null | bool | number | string | array => exact DiffersAt.refl _ _ _

theorem setSection_differs {name key : String} (resources : Json)
    (all : ∀ entry ∈ changes, places [name, entry.1])
    (gpus : gpu ≠ none → places [name, gpuResource]) (inhabited : places [name, key]) :
    DiffersAt none places resources (setSection changes gpu resources name) := by
  cases resources with
  | object sections =>
    refine DiffersAt.fill (setAmounts changes gpu) sections ⟨_, inhabited⟩ fun amounts => ?_
    exact setAmounts_differs plain_none amounts all gpus
  | null | bool | number | string | array => exact DiffersAt.refl _ _ _

/-- What an update sets in a container, it sets in the sections of its resources. -/
theorem setContainer_differs {key : String} (container : Json)
    (all : ∀ name ∈ ["limits", "requests"], ∀ entry ∈ changes, places ["resources", name, entry.1])
    (gpus : gpu ≠ none → ∀ name ∈ ["limits", "requests"], places ["resources", name, gpuResource])
    (inhabited : ∀ name ∈ ["limits", "requests"], places ["resources", name, key]) :
    DiffersAt none places container (setContainer changes gpu container) := by
  have hlimits : "limits" ∈ ["limits", "requests"] := by decide
  have hrequests : "requests" ∈ ["limits", "requests"] := by decide
  cases container with
  | object members =>
    refine DiffersAt.fill (["limits", "requests"].foldl (setSection changes gpu)) members
      ⟨_, inhabited _ hlimits⟩ fun resources => ?_
    have limits : DiffersAt none (fun place => places ("resources" :: place)) resources
        (setSection changes gpu resources "limits") :=
      setSection_differs resources (all _ hlimits) (gpus · _ hlimits) (inhabited _ hlimits)
    refine limits.trans plain_none ?_
    exact setSection_differs _ (all _ hrequests) (gpus · _ hrequests) (inhabited _ hrequests)
  | null | bool | number | string | array => exact DiffersAt.refl _ _ _

/-! ### Ports -/

theorem assignAt_differs (path : List String) {last key : String} {value j k : Json}
    (distinct : ∀ name ∈ path ++ [last], Distinct name) (place : places (path ++ [last, key]))
    (h : assignAt (path ++ [last]) key value j = .ok k) : DiffersAt (some .null) places j k := by
  unfold assignAt at h
  cases hplace : j.at? (path ++ [last]) with
  | none =>
    rw [hplace] at h
    cases h
    exact DiffersAt.refl _ _ _
  | some below =>
    rw [hplace] at h
    cases below with
    | object members =>
      cases h
      refine DiffersAt.modifyAt path distinct ⟨_, place⟩ fun below hbelow => ?_
      cases hplace.symm.trans hbelow
      exact DiffersAt.withMember (.object members) value place
    | null =>
      cases h
      refine DiffersAt.modifyAt path distinct ⟨_, place⟩ fun below hbelow => ?_
      cases hplace.symm.trans hbelow
      exact DiffersAt.ofNull value place
    | bool | number | string | array => cases h

theorem length_assignPorts (used : UInt16) (ports : List Json) :
    (assignPorts used ports).1.length = ports.length := by
  induction ports generalizing used with
  | nil => rfl
  | cons port ports ih =>
    cases port with
    | object members =>
      cases hport : Table.get? members "nodePort" <;>
        simp only [assignPorts, hport, List.length_cons, ih]
    | null | bool | number | string | array => simp only [assignPorts, List.length_cons, ih]

/-- Node ports are handed out where there are none. -/
theorem assignPorts_differs (used : UInt16) (ports : List Json) {name : String}
    (inhabited : places [name, "nodePort"])
    (missing : ∀ item, (Json.array ports).at? [item, "nodePort"] = none →
      places [item, "nodePort"]) :
    DiffersAt vacant places (.array ports) (.array (assignPorts used ports).1) := by
  intro path outside
  cases path with
  | nil =>
    refine DiffersAt.of_outline ?_ ⟨_, inhabited⟩
    simp only [outline, List.map_const', length_assignPorts]
  | cons item rest =>
    cases hposition : Json.position? item with
    | none => exact .inl (by simp only [Json.at?, Json.step?, hposition, Option.bind_none])
    | some i =>
      simp only [Json.at?, Json.step?, hposition, Option.bind_some]
      rcases assignPorts_item used ports i with same | ⟨members, value, hport, hnone, hassigned⟩
      · rw [same]
        exact .inl rfl
      · have place : places [item, "nodePort"] := by
          apply missing
          simp only [Json.at?, Json.step?, hposition, hport, hnone, Option.bind_some,
            Option.bind_none]
        rw [hport, hassigned]
        have differs : DiffersAt vacant (fun place => places (item :: place)) (.object members)
            ((Json.object members).withMember "nodePort" value) :=
          DiffersAt.withMember (.object members) value place
        exact differs.above outside

theorem assignNodePorts_differs (used : UInt16) (object : Json)
    (missing : Manifest.wantsNodePorts object = true →
      ∀ item, object.at? ["spec", "ports", item, "nodePort"] = none →
        places ["spec", "ports", item, "nodePort"]) :
    DiffersAt vacant places object (assignNodePorts used object).1 := by
  unfold assignNodePorts
  split
  next wanted =>
    split
    next ports hports =>
      obtain ⟨place, hplace, hitems⟩ := Option.bind_eq_some_iff.mp hports
      obtain ⟨rfl⟩ : place = .array ports := by
        cases place <;> cases hitems
        rfl
      have below : ∀ rest,
          object.at? ("spec" :: "ports" :: rest) = (Json.array ports).at? rest := by
        intro rest
        rw [show "spec" :: "ports" :: rest = ["spec", "ports"] ++ rest from rfl, at?_append, hplace]
        rfl
      have listed : ∀ item, (Json.array ports).at? [item, "nodePort"] = none →
          places ["spec", "ports", item, "nodePort"] :=
        fun item h => missing wanted item ((below _).trans h)
      -- A word is no position of the list, so nothing stands at that place.
      have inhabited : places ["spec", "ports", "ports", "nodePort"] := listed "ports" rfl
      refine DiffersAt.modifyAt ["spec"] (distinct_path (by decide)) ⟨_, inhabited⟩
        fun place h => ?_
      cases hplace.symm.trans h
      exact assignPorts_differs used ports inhabited listed
    next => exact DiffersAt.refl _ _ _
  next => exact DiffersAt.refl _ _ _

/-! ### Pods -/

theorem wantsNodePorts_congr {j k : Json} (same : k.at? ["spec", "type"] = j.at? ["spec", "type"]) :
    Manifest.wantsNodePorts k = Manifest.wantsNodePorts j := by
  rw [Manifest.wantsNodePorts, same]
  rfl

theorem asks_of_touches (touches : u.touchesResources = true) : ∃ key, AsksFor u key := by
  cases hcpu : u.cpu with
  | some text => exact ⟨_, .cpu hcpu⟩
  | none =>
    cases hmemory : u.memory with
    | some text => exact ⟨_, .memory hmemory⟩
    | none =>
      cases hgpu : u.gpu with
      | some n => exact ⟨_, .gpu hgpu⟩
      | none =>
        rw [touchesResources, hcpu, hmemory, hgpu] at touches
        cases touches

theorem asks_of_change (checked : u.amountChanges = .ok changes) :
    ∀ entry ∈ changes, AsksFor u entry.1 := by
  obtain ⟨-, -, rfl⟩ := amountChanges_ok checked
  intro entry hentry
  rcases List.mem_append.mp hentry with h | h
  · obtain ⟨text, given, rfl⟩ := Option.map_eq_some_iff.mp (Option.mem_toList.mp h)
    exact .cpu given
  · obtain ⟨text, given, rfl⟩ := Option.map_eq_some_iff.mp (Option.mem_toList.mp h)
    exact .memory given

/-- The object that is stored of a pod is its manifest, placed in its namespace. -/
theorem pod_stored {ns : String} {stored manifest object : Json}
    (unwanted : Manifest.wantsNodePorts stored = false)
    (changed : manifest =
      (withoutServerFields stored).modifyAt (setContainer changes gpu) containerPath)
    (submitted : StoredAs (Manifest.placedIn ns manifest) object) :
    object = Manifest.placedIn ns manifest := by
  have placed : (Manifest.placedIn ns manifest).at? ["spec", "type"] =
      manifest.at? ["spec", "type"] := retains_placedIn ns manifest _ (.spec (by decide))
  have apart : manifest.at? ["spec", "type"] =
      (withoutServerFields stored).at? ["spec", "type"] := by
    rw [changed]
    exact at?_modifyAt_apart _ _ ["spec"] ["0"] [] (by decide)
  have hwants : Manifest.wantsNodePorts (Manifest.placedIn ns manifest) = false := by
    rw [wantsNodePorts_congr placed, wantsNodePorts_congr apart,
      wantsNodePorts_congr (spec_withoutServerFields stored ["type"]), unwanted]
  obtain ⟨used, rfl⟩ := submitted
  rw [assignNodePorts, if_neg (Bool.eq_false_iff.mp hwants)]

theorem podKept_of_set {ns name : String} {stored manifest object : Json} {members : Table Json}
    (touches : u.touchesResources = true) (checked : u.amountChanges = .ok changes)
    (named : Manifest.name? stored = some name)
    (unwanted : Manifest.wantsNodePorts stored = false)
    (present : (withoutServerFields stored).at? containerPath = some (.object members))
    (changed : manifest =
      (withoutServerFields stored).modifyAt (setContainer changes u.gpu) containerPath)
    (submitted : StoredAs (Manifest.placedIn ns manifest) object) : PodKept u ns stored object := by
  obtain rfl := pod_stored unwanted changed submitted
  have hname : Manifest.name? manifest = some name := by
    rw [changed]
    exact (modifySpec_name? _ _ _).trans
      ((retains_withoutServerFields stored).name?.trans named)
  obtain ⟨key, asks⟩ := asks_of_touches touches
  have set : DiffersAt none (PodPlace u) (withoutServerFields stored) manifest := by
    rw [changed]
    refine DiffersAt.modifyAt ["spec", "containers"] (distinct_path (by decide))
      ⟨_, .amount List.mem_cons_self asks⟩ fun container _ => ?_
    refine setContainer_differs container ?_ ?_ fun name hname => .amount hname asks
    · exact fun name hname entry hentry => .amount hname (asks_of_change checked entry hentry)
    · intro given name hname
      obtain ⟨n, hgpu⟩ := Option.ne_none_iff_exists'.mp given
      exact .amount hname (.gpu hgpu)
  have container : stored.at? containerPath = some (.object members) :=
    (spec_withoutServerFields stored _).symm.trans present
  refine ⟨⟨members, container⟩, ?_, ?_, fun name hname => ?_, placedIn_namespace hname ns⟩
  · refine ((withoutServerFields_differs plain_none stored .status fun _ => .field).trans
      plain_none set).trans plain_none ?_
    exact placedIn_differs ns manifest .ns
  · have placed : (Manifest.placedIn ns manifest).at? ["status"] = manifest.at? ["status"] :=
      at?_modifyAt_apart _ manifest [] [] [] (by decide)
    rw [placed, changed, ← withoutServerFields_status stored]
    exact at?_modifyAt_apart _ _ [] ["containers", "0"] [] (by decide)
  · have other : "namespace" ≠ name := by
      rintro rfl
      exact absurd hname (by decide)
    have placed : (Manifest.placedIn ns manifest).at? ["metadata", name] =
        manifest.at? ["metadata", name] :=
      at?_modifyAt_through _ manifest ["metadata"] fun metadata =>
        at?_withMember_of_ne metadata _ [] other
    rw [placed, changed, ← withoutServerFields_fields stored name hname]
    exact modifySpec_metadata _ _ _ _

/-! ### Patched objects -/

theorem assignAt_modified {path : List String} {key : String} {value j k : Json}
    (h : assignAt path key value j = .ok k) :
    k = j ∨ ∃ place, k = j.modifyAt (fun _ => place) path := by
  unfold assignAt at h
  split at h
  · exact .inl (Except.ok.inj h).symm
  next place _ =>
    cases hassign : assign key value place with
    | error failure =>
      rw [hassign] at h
      cases h
    | ok changed =>
      rw [hassign] at h
      exact .inr ⟨changed, (Except.ok.inj h).symm⟩

/-- What is assigned below the specification is assigned nowhere else. -/
theorem assignAt_apart {path rest : List String} {key name : String} {value j k : Json}
    (h : assignAt ("spec" :: path) key value j = .ok k) (apart : Apart "spec" name) :
    k.at? (name :: rest) = j.at? (name :: rest) := by
  rcases assignAt_modified h with rfl | ⟨place, rfl⟩
  · rfl
  · exact at?_modifyAt_apart _ j [] path rest apart

/-- Whatever stands there, an assignment changes it where it is made and nowhere else. -/
theorem assignAt_within (path : List String) {last key : String} {value j k : Json}
    (distinct : ∀ name ∈ path ++ [last], Distinct name) (place : places (path ++ [last]))
    (h : assignAt (path ++ [last]) key value j = .ok k) : DiffersAt vacant places j k := by
  rcases assignAt_modified h with rfl | ⟨changed, rfl⟩
  · exact DiffersAt.refl _ _ _
  · exact DiffersAt.modifyAt path distinct ⟨_, place⟩ fun below _ => DiffersAt.whole place

theorem withStatusOf_apart (stored manifest : Json) {name : String} (rest : List String)
    (h : "status" ≠ name) :
    (withStatusOf stored manifest).at? (name :: rest) = manifest.at? (name :: rest) := by
  rcases withStatusOf_cases stored manifest with ⟨status, hstatus⟩ | hstatus
  · rw [hstatus]
    exact at?_withMember_of_ne manifest status rest h
  · rw [hstatus]

/-- An object of a cluster keeps its status if the manifest has none. -/
theorem withStatusOf_status {stored manifest : Json} (same : outline manifest = outline stored)
    (bare : manifest.at? ["status"] = none) :
    (withStatusOf stored manifest).at? ["status"] = stored.at? ["status"] := by
  have word : Json.position? "status" = none := by decide
  unfold withStatusOf
  cases stored with
  | object members =>
    cases manifest with
    | object others =>
      have absent : Table.get? others "status" = none := (at?_member _ _).symm.trans bare
      rw [at?_member members]
      simp only [Json.member?, absent]
      cases Table.get? members "status" with
      | none => exact bare
      | some status => exact (at?_member _ _).trans (Table.get?_insert_self others "status" status)
    | null | bool | number | string | array => cases same
  | array items =>
    simpa only [Json.member?, Json.at?, Json.step?, word, Option.bind_none] using bare
  | null | bool | number | string => exact bare

theorem assignAt_status {path : List String} {key : String} {value stored manifest object : Json}
    (changed : assignAt ("spec" :: path) key value (withoutServerFields stored) = .ok manifest)
    (submitted : StoredAs (withStatusOf stored manifest) object) :
    object.at? ["status"] = stored.at? ["status"] := by
  have bare : manifest.at? ["status"] = none :=
    (assignAt_apart changed (by decide)).trans (withoutServerFields_status stored)
  have same : outline manifest = outline stored := by
    have read : outline (withoutServerFields stored) = outline stored :=
      (outline_modifyAt _ _ _ _).trans (outline_withoutMember _ _)
    rcases assignAt_modified changed with rfl | ⟨place, rfl⟩
    · exact read
    · exact (outline_modifyAt _ _ _ _).trans read
  exact (storedAs_apart submitted (by decide) []).trans (withStatusOf_status same bare)

/-- The places of a patched object, and its status, lie elsewhere than its type and the node ports
that it has. -/
theorem portPlace_elsewhere {path : List String} {stored : Json}
    (type : Elsewhere path ["spec", "type"])
    (nodePorts : ∀ item, Elsewhere path ["spec", "ports", item, "nodePort"]) {place : List String}
    (hplace : PortPlace path stored place ∨ place = ["status"]) :
    Elsewhere place ["spec", "type"] ∧
      ∀ item value, stored.at? ["spec", "ports", item, "nodePort"] = some value →
        Elsewhere place ["spec", "ports", item, "nodePort"] := by
  rcases hplace with hplace | rfl
  · cases hplace with
    | field filled => simp [Elsewhere, List.cons_prefix_cons]
    | port => exact ⟨type, fun item _ _ => nodePorts item⟩
    | @nodePort item wanted missing =>
      refine ⟨by simp [Elsewhere, List.cons_prefix_cons], fun other value present => ?_⟩
      have hne : item ≠ other := by
        rintro rfl
        cases missing.symm.trans present
      simp [Elsewhere, List.cons_prefix_cons, hne, hne.symm]
  · simp [Elsewhere, List.cons_prefix_cons]

/-- A manifest is submitted with the status of the object that it was made from. Until then its
status is one of the places at which it differs. -/
theorem submitted_differs (plain : Plain vacant) {stored manifest : Json}
    (fields : ∀ name ∈ serverFields, places ["metadata", name])
    (assigned : DiffersAt vacant places (withoutServerFields stored) manifest) :
    DiffersAt vacant (fun place => places place ∨ place = ["status"]) stored
      (withStatusOf stored manifest) := by
  have read : DiffersAt vacant (fun place => places place ∨ place = ["status"]) stored
      (withoutServerFields stored) :=
    withoutServerFields_differs plain stored (.inr rfl) fun name hname => .inl (fields name hname)
  exact (read.trans plain (assigned.mono fun _ => .inl)).trans plain
    (withStatusOf_differs stored manifest (.inr rfl))

/-- An object that is stored with the status that it had differs where it was assigned to, in the
fields of the cluster, and where the cluster handed out node ports. -/
theorem stored_differs (plain : Plain vacant) {stored manifest object : Json}
    (fields : ∀ name ∈ serverFields, places ["metadata", name])
    (assigned : DiffersAt vacant places (withoutServerFields stored) manifest)
    (submitted : StoredAs (withStatusOf stored manifest) object)
    (status : object.at? ["status"] = stored.at? ["status"])
    (missing : Manifest.wantsNodePorts (withStatusOf stored manifest) = true → ∀ item,
      (withStatusOf stored manifest).at? ["spec", "ports", item, "nodePort"] = none →
        places ["spec", "ports", item, "nodePort"]) : DiffersAt vacant places stored object := by
  have before := submitted_differs plain fields assigned
  obtain ⟨used, rfl⟩ := submitted
  have handedOut : DiffersAt vacant (fun place => places place ∨ place = ["status"])
      (withStatusOf stored manifest) (assignNodePorts used (withStatusOf stored manifest)).1 :=
    assignNodePorts_differs used _ fun wanted item absent => .inl (missing wanted item absent)
  exact (before.trans plain handedOut).keep status ⟨_, fields "uid" (by decide)⟩

theorem portKept_of_assigned (front : List String) {last key : String}
    {value stored manifest object : Json}
    (distinct : ∀ name ∈ "spec" :: front ++ [last], Distinct name)
    (type : Elsewhere ("spec" :: front ++ [last, key]) ["spec", "type"])
    (nodePorts : ∀ item,
      Elsewhere ("spec" :: front ++ [last, key]) ["spec", "ports", item, "nodePort"])
    (changed : assignAt ("spec" :: front ++ [last]) key value (withoutServerFields stored) =
      .ok manifest)
    (submitted : StoredAs (withStatusOf stored manifest) object) :
    PortKept ("spec" :: front ++ [last, key]) stored object := by
  let places := PortPlace ("spec" :: front ++ [last, key]) stored
  have around : ("spec" :: front ++ [last, key]).dropLast = "spec" :: front ++ [last] := by
    rw [show "spec" :: front ++ [last, key] = ("spec" :: front ++ [last]) ++ [key] by simp,
      List.dropLast_concat]
  have assigned : DiffersAt (some .null) places (withoutServerFields stored) manifest :=
    assignAt_differs ("spec" :: front) distinct .port changed
  have before := submitted_differs plain_null (fun _ => .field) assigned
  have wants : Manifest.wantsNodePorts (withStatusOf stored manifest) =
      Manifest.wantsNodePorts stored :=
    wantsNodePorts_congr (before.same fun _ h => (portPlace_elsewhere type nodePorts h).1)
  -- A node port that is there stays, so the cluster hands out only those that were missing.
  have missing : Manifest.wantsNodePorts (withStatusOf stored manifest) = true → ∀ item,
      (withStatusOf stored manifest).at? ["spec", "ports", item, "nodePort"] = none →
        places ["spec", "ports", item, "nodePort"] := by
    intro wanted item absent
    refine .nodePort (wants ▸ wanted) (Option.eq_none_iff_forall_ne_some.mpr ?_)
    intro value present
    have kept := before.same fun _ h => (portPlace_elsewhere type nodePorts h).2 item value present
    cases absent.symm.trans (kept.trans present)
  have status : object.at? ["status"] = stored.at? ["status"] := assignAt_status changed submitted
  have differs := stored_differs plain_null (fun _ => .field) assigned submitted status missing
  refine ⟨differs, ?_, status, fun name hname => ?_, fun item value present => ?_⟩
  · rw [around]
    exact stored_differs plain_none (fun _ filled => .inl (.field filled))
      (assignAt_within ("spec" :: front) distinct (.inr rfl) changed) submitted status
      fun wanted item absent => .inl (missing wanted item absent)
  · rw [storedAs_apart submitted (by decide), withStatusOf_apart _ _ _ (by decide),
      assignAt_apart changed (by decide)]
    exact withoutServerFields_fields stored name hname
  · have kept := differs.same fun _ h =>
      (portPlace_elsewhere type nodePorts (.inl h)).2 item value present
    exact kept.trans present

end ClusterProvisioning.Proofs
