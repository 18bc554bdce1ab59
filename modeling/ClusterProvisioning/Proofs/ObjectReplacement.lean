import ClusterProvisioning.Proofs.EditDifferences
import ClusterProvisioning.Proofs.PortSharing

/-!
# Replacing one object

An object whose kind takes a new manifest in place is updated by one call that happens as a whole or
not at all. A pod or a training job is deleted and created again, so a fault can also leave nothing
under its name. Whatever faults are armed, a cluster is in one of these states afterwards
(`replace_effect`), and an object that was replaced is the manifest with what the cluster fills in
(`Renewed`).
-/

namespace ClusterProvisioning.Proofs
open Program MemoryCluster

/-- The places of a manifest that the cluster fills in when the manifest replaces an object. -/
inductive FilledPlace (target : Ref) (manifest : Json) : List String → Prop
  | ns (recreated : target.kind.patchableInPlace = false) :
      FilledPlace target manifest ["metadata", "namespace"]
  | status (inPlace : target.kind.patchableInPlace = true)
      (bare : manifest.at? ["status"] = none) : FilledPlace target manifest ["status"]
  | nodePort {item : String} (wanted : Manifest.wantsNodePorts manifest = true)
      (missing : manifest.at? ["spec", "ports", item, "nodePort"] = none) :
      FilledPlace target manifest ["spec", "ports", item, "nodePort"]

/-- An object is a manifest as it is stored in place of another object, or of none, after some node
ports were handed out. -/
structure Renewed (target : Ref) (before : Option Json) (used : UInt16)
    (manifest object : Json) : Prop where
  differs : DiffersAt none (FilledPlace target manifest) manifest object
  ns : target.kind.patchableInPlace = false →
    object.at? ["metadata", "namespace"] = some (.string target.ns)
  /-- A status is carried over in place, unless the manifest has one. -/
  status : object.at? ["status"] = (manifest.at? ["status"]).or
    (if target.kind.patchableInPlace then before.bind (·.at? ["status"]) else none)
  nodePorts : filledPorts manifest object = nextPorts used (missingPorts manifest)

/-- What replacing an object does to a cluster. -/
structure ReplaceEffect (target : Ref) (manifest : Json) (c c' : MemoryCluster)
    (events : List Event) (outcome : Outcome Ref) : Prop where
  noDelete : target.kind.patchableInPlace = true → ∀ other, .delete other ∉ callTrail events
  unchanged : target.kind.patchableInPlace = true → ∀ report, outcome = .error report →
    c'.objects = c.objects
  noUpdate : target.kind = .pod ∨ target.kind = .pyTorchJob → ∀ other spec,
    .update other spec ∉ callTrail events
  keptOrGone : target.kind = .pod ∨ target.kind = .pyTorchJob → ∀ report,
    outcome = .error report →
      (c'.object? target = c.object? target ∨ c'.object? target = none) ∧
        (c'.object? target = none →
          .call (.delete target) (.ok ()) ∈ events ∨ c.object? target = none)
  renewed : ∀ made, outcome = .ok made → made = target ∧ ∃ object,
    c'.object? target = some object ∧
      Renewed target (c.object? target) c.portsHandedOut manifest object
  others : ∀ other, other ≠ target → c'.object? other = c.object? other

variable {target : Ref} {manifest : Json} {c c' : MemoryCluster}
  {events : List Event} {outcome : Outcome Ref}

theorem patchableInPlace_false {kind : Kind} :
    kind.patchableInPlace = false ↔ kind = .pod ∨ kind = .pyTorchJob := by
  simp only [Kind.patchableInPlace, Bool.and_eq_false_iff, decide_eq_false_iff_not, not_not]

/-! ### The stored object -/

theorem object_of_named {name : String} (named : Manifest.name? manifest = some name) :
    ∃ members, manifest = .object members := by
  cases manifest with
  | object members => exact ⟨members, rfl⟩
  | null | bool | number | string | array => cases named

/-- A named manifest is an object, so it takes a status that it does not have. -/
theorem withStatusOf_carried {name : String} (named : Manifest.name? manifest = some name)
    (stored : Json) :
    (withStatusOf stored manifest).at? ["status"] =
      (manifest.at? ["status"]).or (stored.at? ["status"]) := by
  obtain ⟨members, rfl⟩ := object_of_named named
  rw [← member?_eq_at? stored (by decide), ← member?_eq_at? (.object members) (by decide)]
  unfold withStatusOf
  cases own : (Json.object members).member? "status" with
  | some status =>
    have kept : (Json.object members).at? ["status"] = some status := (at?_member _ _).trans own
    cases stored.member? "status" <;> exact kept
  | none =>
    cases stored.member? "status" with
    | some status => exact (at?_member _ _).trans (Table.get?_insert_self members "status" status)
    | none => exact (at?_member _ _).trans own

theorem withStatusOf_filled (inPlace : target.kind.patchableInPlace = true) (stored : Json) :
    DiffersAt none (FilledPlace target manifest) manifest (withStatusOf stored manifest) := by
  unfold withStatusOf
  split
  next status _ bare =>
    rw [member?_eq_at? manifest (by decide)] at bare
    exact DiffersAt.withMember manifest status (.status inPlace bare)
  next => exact DiffersAt.refl _ _ _

theorem placedIn_status (ns : String) (manifest : Json) :
    (Manifest.placedIn ns manifest).at? ["status"] = manifest.at? ["status"] :=
  at?_modifyAt_apart _ manifest [] [] [] (by decide)

/-- What is submitted of a manifest differs from it, once it is stored, where it differed and in the
node ports. -/
theorem stored_filled {submitted : Json} (used : UInt16)
    (same : ∀ path, submitted.at? ("spec" :: path) = manifest.at? ("spec" :: path))
    (differs : DiffersAt none (FilledPlace target manifest) manifest submitted) :
    DiffersAt none (FilledPlace target manifest) manifest (assignNodePorts used submitted).1 := by
  refine differs.trans plain_none (assignNodePorts_differs used submitted ?_)
  intro wanted item missing
  rw [wantsNodePorts_congr (same _)] at wanted
  rw [same] at missing
  exact .nodePort wanted missing

theorem renewed_inPlace (inPlace : target.kind.patchableInPlace = true)
    (named : Manifest.name? manifest = some target.name) (stored : Json) (used : UInt16) :
    Renewed target (some stored) used manifest
      (assignNodePorts used (withStatusOf stored manifest)).1 := by
  have same := spec_withStatusOf stored manifest
  have status : (assignNodePorts used (withStatusOf stored manifest)).1.at? ["status"] =
      (withStatusOf stored manifest).at? ["status"] := storedAs_apart ⟨used, rfl⟩ (by decide) []
  refine ⟨stored_filled used same ?_, fun recreated => ?_, ?_, filledPorts_congr used same⟩
  · exact withStatusOf_filled inPlace stored
  · cases inPlace.symm.trans recreated
  · rw [status, withStatusOf_carried named, if_pos inPlace]
    rfl

theorem renewed_recreated (recreated : target.kind.patchableInPlace = false)
    (named : Manifest.name? manifest = some target.name) (before : Option Json) (used : UInt16) :
    Renewed target before used manifest
      (assignNodePorts used (Manifest.placedIn target.ns manifest)).1 := by
  have same := spec_placedIn target.ns manifest
  have apart : ∀ name rest, Apart "spec" name →
      (assignNodePorts used (Manifest.placedIn target.ns manifest)).1.at? (name :: rest) =
        (Manifest.placedIn target.ns manifest).at? (name :: rest) :=
    fun name rest hname => storedAs_apart ⟨used, rfl⟩ hname rest
  refine ⟨stored_filled used same ?_, fun _ => ?_, ?_, filledPorts_congr used same⟩
  · exact placedIn_differs target.ns manifest (.ns recreated)
  · rw [apart "metadata" _ (by decide), placedIn_namespace named]
  · rw [apart "status" _ (by decide), placedIn_status, if_neg (Bool.eq_false_iff.mp recreated),
      Option.or_none]

/-! ### The course of a replacement -/

/-- Every call of a replacement is on its target. -/
theorem replaceCourse_touches (named : Manifest.name? manifest = some target.name)
    (course : ReplaceCourse target manifest events outcome) :
    ∀ call ∈ callTrail events, touched call = some target := by
  have created : touched (.create target.ns target.kind manifest) = some target := by
    rw [touched, named]
    rfl
  cases course with
  | unpatched | patched | stuck => exact List.forall_mem_singleton.mpr rfl
  | lost | recreated => exact List.forall_mem_cons.mpr ⟨rfl, List.forall_mem_singleton.mpr created⟩

/-- A replacement in place is one update. -/
theorem replaceCourse_inPlace (inPlace : target.kind.patchableInPlace = true)
    (course : ReplaceCourse target manifest events outcome) :
    callTrail events = [.update target manifest] := by
  cases course with
  | unpatched | patched => rfl
  | stuck recreated | lost recreated | recreated recreated =>
    cases inPlace.symm.trans recreated

theorem replaceCourse_recreated (recreated : target.kind.patchableInPlace = false)
    (course : ReplaceCourse target manifest events outcome) :
    ∀ call ∈ callTrail events,
      call = .delete target ∨ call = .create target.ns target.kind manifest := by
  cases course with
  | unpatched inPlace | patched inPlace => cases inPlace.symm.trans recreated
  | stuck => exact List.forall_mem_singleton.mpr (.inl rfl)
  | lost | recreated =>
    exact List.forall_mem_cons.mpr ⟨.inl rfl, List.forall_mem_singleton.mpr (.inr rfl)⟩

/-- An update that fails leaves every object. -/
theorem unpatched_objects {report : Report ProvisionError}
    (inPlace : target.kind.patchableInPlace = true)
    (course : ReplaceCourse target manifest events (.error report))
    (served : Serves gateway c events c') : c'.objects = c.objects := by
  cases course with
  | unpatched =>
    obtain ⟨d, hupdate, rfl⟩ := served
    have failed := (answer_failed (congrArg Prod.fst hupdate)).1
    rwa [hupdate] at failed
  | stuck recreated | lost recreated => cases inPlace.symm.trans recreated

/-- A delete that fails leaves the object; when the create fails, it is gone. -/
theorem failed_target {report : Report ProvisionError}
    (recreated : target.kind.patchableInPlace = false)
    (course : ReplaceCourse target manifest events (.error report))
    (served : Serves gateway c events c') :
    c'.object? target = c.object? target ∨ c'.object? target = none := by
  cases course with
  | unpatched inPlace => cases inPlace.symm.trans recreated
  | stuck =>
    obtain ⟨d, hdelete, rfl⟩ := served
    exact .inl (congrArg (Assoc.get? · target) (delete_failed hdelete))
  | lost _ settled =>
    obtain ⟨d, hdelete, e, hcreate, rfl⟩ := served
    obtain ⟨absent, -⟩ := delete_settled hdelete settled
    have failed := (answer_failed (congrArg Prod.fst hcreate)).1
    rw [hcreate] at failed
    exact .inr ((congrArg (Assoc.get? · target) failed).trans absent)

theorem made_renewed {made : Ref} (named : Manifest.name? manifest = some target.name)
    (course : ReplaceCourse target manifest events (.ok made))
    (served : Serves gateway c events c') :
    made = target ∧ ∃ object, c'.object? target = some object ∧
      Renewed target (c.object? target) c.portsHandedOut manifest object := by
  cases course with
  | patched inPlace =>
    obtain ⟨d, hupdate, rfl⟩ := served
    change c.update target manifest = (.ok made, c') at hupdate
    rcases update_cases c target manifest with ⟨report, failed, -⟩ | ⟨stored, hmade, before, put⟩
    · rw [hupdate] at failed
      cases failed
    · rw [hupdate] at hmade put
      cases hmade
      rw [before]
      exact ⟨rfl, _, PutAt.self put, renewed_inPlace inPlace named stored c.portsHandedOut⟩
  | recreated recreated settled =>
    obtain ⟨d, hdelete, e, hcreate, rfl⟩ := served
    change c.delete target = (_, d) at hdelete
    change d.create target.ns target.kind manifest = (.ok made, c') at hcreate
    have count : d.portsHandedOut = c.portsHandedOut := by
      have h := delete_ports c target
      rwa [hdelete] at h
    obtain ⟨name, own, rfl, put⟩ := create_made hcreate
    cases named.symm.trans own
    refine ⟨rfl, _, PutAt.self put, ?_⟩
    rw [count]
    exact renewed_recreated recreated named _ c.portsHandedOut

/-- Whatever faults are armed on a cluster, replacing an object by a manifest of its name leaves the
cluster in one of few states: an update that fails changes nothing, and a pod or a training job that
is not replaced stands there as before, or not at all if it was deleted. -/
theorem replace_effect (target : Ref) (manifest : Json) (c : MemoryCluster)
    (named : Manifest.name? manifest = some target.name) :
    let (outcome, c', events) := (Apply.replace target manifest).run gateway c
    ReplaceEffect target manifest c c' events outcome := by
  rcases run : (Apply.replace target manifest).run gateway c with ⟨outcome, c', events⟩
  obtain ⟨trace, served⟩ := (run_eq_iff _ _ _ _ _ _).mp run
  have course := course_of_replace trace
  constructor
  · intro inPlace other hcall
    rw [replaceCourse_inPlace inPlace course] at hcall
    cases List.mem_singleton.mp hcall
  · rintro inPlace report rfl
    exact unpatched_objects inPlace course served
  · intro kind other spec hcall
    rcases replaceCourse_recreated (patchableInPlace_false.mpr kind) course _ hcall with h | h <;>
      cases h
  · rintro kind report rfl
    refine ⟨failed_target (patchableInPlace_false.mpr kind) course served, fun absent => ?_⟩
    by_cases present : c.object? target = none
    · exact .inr present
    · exact .inl (serves_deletes served present absent)
  · rintro made rfl
    exact made_renewed named course served
  · intro other hne
    refine serves_frame served fun call hcall htouched => hne ?_
    exact Option.some.inj (htouched.symm.trans (replaceCourse_touches named course call hcall))

/-- A pod is gone if it cannot be created again. -/
theorem replace_effect_lost :
    let c := (labCluster .null []).failOn .create "ada"
    let pod : Ref := ⟨.pod, "lab", "ada"⟩
    let manifest := Json.object [("metadata", .object [("name", .string "ada")])]
    ∃ report c' events, Manifest.name? manifest = some pod.name ∧
      (Apply.replace pod manifest).run gateway c = (.error report, c', events) ∧
      c.object? pod ≠ none ∧ c'.object? pod = none ∧
      ReplaceEffect pod manifest c c' events (.error report) := by
  intro c pod manifest
  have named : Manifest.name? manifest = some pod.name := rfl
  exact ⟨_, _, _, named, rfl, Option.some_ne_none _, rfl, replace_effect pod manifest c named⟩

end ClusterProvisioning.Proofs
