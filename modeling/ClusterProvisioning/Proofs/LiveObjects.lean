import ClusterProvisioning.Proofs.JsonPaths
import ClusterProvisioning.Proofs.NodePorts
import ClusterProvisioning.Proofs.UnarmedCluster
import ClusterProvisioning.Proofs.UpdateCourse

/-!
# What live objects keep of their manifests

A cluster writes into the objects that it stores: the status, some metadata, the node ports of
services. At the other paths (`Desired`) an object says what its manifest says (`Retains`), and
still does after it was read, freed of what the cluster wrote, and submitted again. On a cluster
without faults an edit is made, and nothing but its target changes (`editCourse_unarmed`).
-/

namespace ClusterProvisioning.Proofs
open Program MemoryCluster SessionUpdate

/-- The path leads to what a manifest itself says. -/
inductive Desired : List String → Prop
  | metadata {name : String} {rest : List String} (own : name ≠ "namespace")
      (kept : name ∉ serverFields) : Desired ("metadata" :: name :: rest)
  | spec {name : String} {rest : List String} (other : name ≠ "ports") :
      Desired ("spec" :: name :: rest)
  | port {item name : String} {rest : List String} (other : name ≠ "nodePort") :
      Desired ("spec" :: "ports" :: item :: name :: rest)

/-- An object says what a manifest says. -/
def Retains (manifest object : Json) : Prop :=
  ∀ path, Desired path → object.at? path = manifest.at? path

theorem Retains.trans {manifest object other : Json} (first : Retains manifest object)
    (second : Retains object other) : Retains manifest other :=
  fun path desired => (second path desired).trans (first path desired)

theorem Retains.name? {manifest object : Json} (retains : Retains manifest object) :
    Manifest.name? object = Manifest.name? manifest := by
  unfold Manifest.name?
  rw [retains _ (.metadata (by decide) (by decide))]

theorem Desired.first_ne {path : List String} (desired : Desired path) :
    ∃ first rest, path = first :: rest ∧ first ≠ "status" := by
  cases desired with
  | metadata own kept => exact ⟨_, _, rfl, by decide⟩
  | spec other => exact ⟨_, _, rfl, by decide⟩
  | port other => exact ⟨_, _, rfl, by decide⟩

/-! ### Metadata and status -/

theorem retains_modifyMetadata (f : Json → Json) (j : Json)
    (through : ∀ (name : String) (rest : List String) (metadata : Json), name ≠ "namespace" →
      name ∉ serverFields → (f metadata).at? (name :: rest) = metadata.at? (name :: rest)) :
    Retains j (j.modifyAt f ["metadata"]) := by
  have apart : Apart "metadata" "spec" := by decide
  intro path desired
  cases desired with
  | @metadata name rest own kept =>
    exact at?_modifyAt_through f j ["metadata"] fun metadata => through name rest metadata own kept
  | spec other => exact at?_modifyAt_apart f j [] [] _ apart
  | port other => exact at?_modifyAt_apart f j [] [] _ apart

theorem at?_withoutMembers {name : String} {names : List String} (rest : List String) (j : Json)
    (h : name ∉ names) :
    (names.foldl Json.withoutMember j).at? (name :: rest) = j.at? (name :: rest) := by
  induction names generalizing j with
  | nil => rfl
  | cons other names ih =>
    rw [List.foldl_cons, ih _ (List.not_mem_of_not_mem_cons h)]
    exact at?_withoutMember_of_ne j rest (List.ne_of_not_mem_cons h).symm

theorem retains_withoutServerFields (object : Json) :
    Retains object (withoutServerFields object) := by
  refine Retains.trans (fun path desired => ?_) (retains_modifyMetadata _ _ ?_)
  · obtain ⟨first, rest, rfl, hfirst⟩ := desired.first_ne
    exact at?_withoutMember_of_ne object rest hfirst.symm
  · exact fun name rest metadata _ kept => at?_withoutMembers rest metadata kept

theorem spec_withoutServerFields (object : Json) (path : List String) :
    (withoutServerFields object).at? ("spec" :: path) = object.at? ("spec" :: path) :=
  (at?_modifyAt_apart _ _ [] [] path (by decide)).trans
    (at?_withoutMember_of_ne object path (by decide))

theorem retains_placedIn (ns : String) (manifest : Json) :
    Retains manifest (Manifest.placedIn ns manifest) :=
  retains_modifyMetadata _ _ fun _ rest metadata own _ =>
    at?_withMember_of_ne metadata _ rest own.symm

theorem placedIn_namespace {manifest : Json} {name : String}
    (named : Manifest.name? manifest = some name) (ns : String) :
    (Manifest.placedIn ns manifest).at? ["metadata", "namespace"] = some (.string ns) := by
  obtain ⟨text, hname, -⟩ := Option.bind_eq_some_iff.mp named
  rw [show ["metadata", "name"] = ["metadata"] ++ ["name"] from rfl, at?_append] at hname
  obtain ⟨metadata, hmetadata, hname⟩ := Option.bind_eq_some_iff.mp hname
  have h := at?_modifyAt_append (fun metadata => metadata.withMember "namespace" (.string ns))
    manifest ["metadata"] ["namespace"]
  rw [hmetadata] at h
  refine h.trans ?_
  cases metadata with
  | object members =>
    simp only [Option.bind_some, Json.withMember, Json.at?, Json.step?, Table.get?_insert_self]
  | array items => cases hname
  | null => cases hname
  | bool b => cases hname
  | number n => cases hname
  | string s => cases hname

theorem retains_withStatus (j status : Json) : Retains j (j.withMember "status" status) := by
  intro path desired
  obtain ⟨first, rest, rfl, hfirst⟩ := desired.first_ne
  exact at?_withMember_of_ne j status rest hfirst.symm

theorem retains_withStatusOf (stored manifest : Json) :
    Retains manifest (withStatusOf stored manifest) := by
  rcases withStatusOf_cases stored manifest with ⟨status, h⟩ | h
  · rw [h]
    exact retains_withStatus manifest status
  · rw [h]
    exact fun path desired => rfl

/-! ### Node ports -/

/-- Handing out node ports leaves a port as it is, or sets its node port if it has none. -/
theorem assignPorts_item (used : UInt16) (ports : List Json) (i : Nat) :
    (assignPorts used ports).1[i]? = ports[i]? ∨ ∃ members value,
      ports[i]? = some (.object members) ∧ Table.get? members "nodePort" = none ∧
        (assignPorts used ports).1[i]? =
          some ((Json.object members).withMember "nodePort" value) := by
  induction ports generalizing used i with
  | nil => exact .inl rfl
  | cons port ports ih =>
    cases port with
    | object members =>
      cases hport : Table.get? members "nodePort" with
      | some pinned =>
        simp only [assignPorts, hport]
        cases i with
        | zero => exact .inl rfl
        | succ i => exact ih used i
      | none =>
        simp only [assignPorts, hport]
        cases i with
        | zero => exact .inr ⟨members, _, rfl, hport, rfl⟩
        | succ i => exact ih (used + 1) i
    | null | bool | number | string | array =>
      cases i with
      | zero => exact .inl rfl
      | succ i => exact ih used i

/-- Handing out node ports sets nothing else in the ports of a service. -/
theorem assignPorts_at? (used : UInt16) (ports : List Json) (i : Nat) {name : String}
    (rest : List String) (h : name ≠ "nodePort") :
    (assignPorts used ports).1[i]?.bind (Json.at? · (name :: rest)) =
      ports[i]?.bind (Json.at? · (name :: rest)) := by
  rcases assignPorts_item used ports i with same | ⟨members, value, hport, -, hassigned⟩
  · rw [same]
  · rw [hport, hassigned]
    exact at?_withMember_of_ne (.object members) value rest h.symm

theorem retains_of_stored {manifest object : Json} (stored : StoredAs manifest object) :
    Retains manifest object := by
  intro path desired
  obtain ⟨used, rfl⟩ := stored
  unfold assignNodePorts
  split
  next =>
    split
    next ports hports =>
      obtain ⟨place, hplace, hitems⟩ := Option.bind_eq_some_iff.mp hports
      obtain ⟨rfl⟩ : place = .array ports := by
        cases place <;> cases hitems
        rfl
      -- Only the ports are written to, and there only the node ports.
      cases desired with
      | metadata own kept => exact at?_modifyAt_apart _ manifest [] _ _ (by decide)
      | spec other =>
        exact at?_modifyAt_apart _ manifest ["spec"] [] _ ⟨other.symm, .inl (by decide)⟩
      | @port item name rest other =>
        refine (at?_modifyAt_append _ manifest ["spec", "ports"] (item :: name :: rest)).trans ?_
        rw [show "spec" :: "ports" :: item :: name :: rest =
          ["spec", "ports"] ++ item :: name :: rest from rfl, at?_append, hplace]
        simp only [Option.bind_some, Json.at?, Json.step?, Option.bind_assoc]
        cases Json.position? item with
        | none => rfl
        | some i => exact assignPorts_at? used ports i rest other
    next => rfl
  next => rfl

/-- Storing an object touches nothing but its specification. -/
theorem storedAs_apart {manifest object : Json} (stored : StoredAs manifest object) {name : String}
    (apart : Apart "spec" name) (rest : List String) :
    object.at? (name :: rest) = manifest.at? (name :: rest) := by
  obtain ⟨used, rfl⟩ := stored
  unfold assignNodePorts
  split
  · split
    · exact at?_modifyAt_apart _ manifest [] ["ports"] rest apart
    · rfl
  · rfl

/-! ### Edits -/

/-- An object stands at its place afterwards, and nothing else changed. -/
def PutAt (c : MemoryCluster) (target : Ref) (object : Json) (c' : MemoryCluster) : Prop :=
  ∀ other, c'.object? other = if other = target then some object else c.object? other

theorem PutAt.self {c c' : MemoryCluster} {target : Ref} {object : Json}
    (put : PutAt c target object c') : c'.object? target = some object :=
  (put target).trans (if_pos rfl)

theorem PutAt.other {c c' : MemoryCluster} {target other : Ref} {object : Json}
    (put : PutAt c target object c') (h : other ≠ target) :
    c'.object? other = c.object? other :=
  (put other).trans (if_neg h)

/-- The manifest that a cluster is given to store in place of an object. -/
def resubmitted (target : Ref) (stored manifest : Json) : Json :=
  if target.kind.patchableInPlace then withStatusOf stored manifest
  else Manifest.placedIn target.ns manifest

theorem retains_resubmitted (target : Ref) (stored manifest : Json) :
    Retains manifest (resubmitted target stored manifest) := by
  unfold resubmitted
  split
  · exact retains_withStatusOf stored manifest
  · exact retains_placedIn target.ns manifest

/-- The place of an object with a new manifest: its own if it is patched, else the one that the
manifest names. -/
def Lands (target : Ref) (manifest : Json) (made : Ref) : Prop :=
  if target.kind.patchableInPlace then made = target
  else ∃ name, Manifest.name? manifest = some name ∧ made = ⟨target.kind, target.ns, name⟩

theorem Lands.inPlace {target made : Ref} {manifest : Json} (lands : Lands target manifest made)
    (inPlace : target.kind.patchableInPlace = true) : made = target := by
  unfold Lands at lands
  rwa [if_pos inPlace] at lands

theorem Lands.recreated {target made : Ref} {manifest : Json} (lands : Lands target manifest made)
    (recreated : target.kind.patchableInPlace = false) :
    ∃ name, Manifest.name? manifest = some name ∧ made = ⟨target.kind, target.ns, name⟩ := by
  unfold Lands at lands
  rwa [if_neg (Bool.eq_false_iff.mp recreated)] at lands

theorem Lands.kind {target made : Ref} {manifest : Json} (lands : Lands target manifest made) :
    made.kind = target.kind := by
  cases inPlace : target.kind.patchableInPlace with
  | true => rw [lands.inPlace inPlace]
  | false =>
    obtain ⟨name, -, rfl⟩ := lands.recreated inPlace
    rfl

theorem Lands.self {target made : Ref} {manifest : Json} (lands : Lands target manifest made)
    (own : target.kind.patchableInPlace = false → Manifest.name? manifest = some target.name) :
    made = target := by
  cases inPlace : target.kind.patchableInPlace with
  | true => exact lands.inPlace inPlace
  | false =>
    obtain ⟨name, named, rfl⟩ := lands.recreated inPlace
    cases named.symm.trans (own inPlace)
    rfl

/-- An object that is replaced stands at its place afterwards, and nothing else changed. -/
theorem replaceCourse_made {target made : Ref} {stored manifest : Json} {events : List Event}
    {c c' : MemoryCluster} (present : c.object? target = some stored)
    (course : ReplaceCourse target manifest events (.ok made))
    (served : Serves gateway c events c') :
    Lands target manifest made ∧ ∃ object, StoredAs (resubmitted target stored manifest) object ∧
      ∀ other, c'.object? other =
        if other = made then some object else if other = target then none else c.object? other := by
  unfold Lands resubmitted
  cases course with
  | patched inPlace =>
    obtain ⟨d, hupdate, rfl⟩ := served
    change c.update target manifest = (.ok made, c') at hupdate
    rw [if_pos inPlace, if_pos inPlace]
    rcases update_cases c target manifest with ⟨report, herror, -⟩ | ⟨found, hok, hfound, hstore⟩
    · rw [hupdate] at herror
      cases herror
    rw [hupdate] at hok hstore
    cases hok
    cases hfound.symm.trans present
    refine ⟨rfl, _, ⟨c.portsHandedOut, rfl⟩, fun other => (hstore other).trans ?_⟩
    by_cases h : other = target
    · rw [if_pos h, if_pos h]
    · rw [if_neg h, if_neg h, if_neg h]
  | recreated recreated settled =>
    obtain ⟨d, hdelete, e, hcreate, rfl⟩ := served
    change d.create target.ns target.kind manifest = (.ok made, c') at hcreate
    obtain ⟨habsent, hothers⟩ := delete_settled hdelete settled
    obtain ⟨name, named, hmade, hstore⟩ := create_made hcreate
    rw [if_neg (Bool.eq_false_iff.mp recreated), if_neg (Bool.eq_false_iff.mp recreated)]
    refine ⟨⟨name, named, hmade⟩, _, ⟨d.portsHandedOut, rfl⟩, fun other => (hstore other).trans ?_⟩
    by_cases h : other = target
    · rw [if_pos h, h, habsent]
    · rw [if_neg h, hothers other h]

theorem replaceCourse_unarmed {target : Ref} {stored manifest : Json} {events : List Event}
    {outcome : Outcome Ref} {c c' : MemoryCluster} (unarmed : Unarmed c)
    (present : c.object? target = some stored)
    (named : target.kind.patchableInPlace = false → Manifest.name? manifest = some target.name)
    (course : ReplaceCourse target manifest events outcome)
    (served : Serves gateway c events c') :
    outcome = .ok target ∧ ∃ object, StoredAs (resubmitted target stored manifest) object ∧
      PutAt c target object c' := by
  obtain ⟨made, rfl⟩ : ∃ made, outcome = .ok made := by
    cases course with
    | patched | recreated => exact ⟨_, rfl⟩
    | unpatched =>
      obtain ⟨d, hupdate, -⟩ := served
      obtain ⟨hanswer, -⟩ := update_unarmed unarmed present hupdate
      cases hanswer
    | stuck recreated stuck =>
      obtain ⟨d, hdelete, -⟩ := served
      obtain ⟨settled, -⟩ := delete_unarmed unarmed hdelete
      exact absurd (stuck.symm.trans settled) Bool.false_ne_true
    | lost recreated settled =>
      obtain ⟨d, hdelete, e, hcreate, -⟩ := served
      obtain ⟨-, hd⟩ := delete_unarmed unarmed hdelete
      obtain ⟨habsent, -⟩ := delete_settled hdelete settled
      obtain ⟨hmade, -⟩ := create_unarmed hd (named recreated) habsent hcreate
      cases hmade
  obtain ⟨lands, object, stored, objects⟩ := replaceCourse_made present course served
  obtain rfl := lands.self named
  refine ⟨rfl, object, stored, fun other => (objects other).trans ?_⟩
  split <;> rfl

/-- An edit whose change is possible is made. -/
theorem editCourse_unarmed {edit : Edit} {stored manifest : Json} {events : List Event}
    {answer : Except UpdateFailure Ref} {c c' : MemoryCluster} (unarmed : Unarmed c)
    (present : c.object? edit.target = some stored)
    (changed : edit.change (withoutServerFields stored) = .ok manifest)
    (named : edit.target.kind.patchableInPlace = false →
      Manifest.name? manifest = some edit.target.name)
    (course : EditCourse edit events answer) (served : Serves gateway c events c') :
    answer = .ok edit.target ∧
      ∃ object, StoredAs (resubmitted edit.target stored manifest) object ∧
        PutAt c edit.target object c' := by
  cases course with
  | unread =>
    obtain ⟨d, hget, -⟩ := served
    obtain ⟨-, -, hfound, -⟩ := get_unarmed unarmed hget
    cases hfound stored present
  | unchanged refused =>
    obtain ⟨d, hget, -⟩ := served
    obtain ⟨-, -, hfound, -⟩ := get_unarmed unarmed hget
    cases hfound stored present
    cases refused.symm.trans changed
  | submitted changed' replaced =>
    obtain ⟨d, hget, hrest⟩ := served
    obtain ⟨hd, hobjects, hfound, -⟩ := get_unarmed unarmed hget
    cases hfound stored present
    cases changed'.symm.trans changed
    have hsame : ∀ other, d.object? other = c.object? other := fun other =>
      congrArg (Assoc.get? · other) hobjects
    obtain ⟨rfl, object, hstored, hothers⟩ :=
      replaceCourse_unarmed hd ((hsame _).trans present) named replaced hrest
    refine ⟨rfl, object, hstored, fun other => (hothers other).trans ?_⟩
    rw [hsame other]

end ClusterProvisioning.Proofs
