import ClusterProvisioning.Gateway.Memory
import ClusterProvisioning.Proofs.JsonPaths

/-!
# Node ports of stored services

The node ports that a cluster fills in while it stores an object are the next ones in line, one for
each port that pins none. While no more are handed out than there are, no two of them are the same.
-/

namespace ClusterProvisioning.Proofs
open MemoryCluster

/-- The ports of a service. -/
def servicePorts (service : Json) : List Json :=
  ((service.at? ["spec", "ports"]).bind Json.items?).getD []

/-- How many of these ports pin no node port. -/
def unpinned (ports : List Json) : Nat :=
  ports.countP fun port => port.isObject && (port.member? "nodePort").isNone

/-- How many node ports a manifest leaves to the cluster. -/
def missingPorts (manifest : Json) : Nat :=
  if Manifest.wantsNodePorts manifest then unpinned (servicePorts manifest) else 0

/-- The node ports of those ports that had none. -/
def filledIn (asked given : List Json) : List Json :=
  (asked.zip given).filterMap fun port =>
    if (port.1.member? "nodePort").isSome then none else port.2.member? "nodePort"

/-- The node ports in an object that its manifest does not pin. -/
def filledPorts (manifest object : Json) : List Json :=
  filledIn (servicePorts manifest) (servicePorts object)

/-- The node ports handed out next, in order, after some were handed out. -/
def nextPorts (used : UInt16) (count : Nat) : List Json :=
  (List.range count).map fun k => .ofNat (nodePortAfter (used + .ofNat k))

theorem unpinned_cons (port : Json) (ports : List Json) :
    unpinned (port :: ports) = unpinned ports +
      if port.isObject && (port.member? "nodePort").isNone then 1 else 0 :=
  List.countP_cons

theorem length_nextPorts (used : UInt16) (count : Nat) : (nextPorts used count).length = count := by
  rw [nextPorts, List.length_map, List.length_range]

theorem nextPorts_add (used : UInt16) (m n : Nat) :
    nextPorts used (m + n) = nextPorts used m ++ nextPorts (used + .ofNat m) n := by
  unfold nextPorts
  rw [List.range_add, List.map_append, List.map_map]
  congr 1
  apply List.map_congr_left
  intro k _
  simp only [Function.comp_apply, UInt16.ofNat_add, UInt16.add_assoc]

theorem nextPorts_succ (used : UInt16) (n : Nat) :
    nextPorts used (n + 1) = .ofNat (nodePortAfter used) :: nextPorts (used + 1) n := by
  rw [Nat.add_comm, nextPorts_add]
  simp [nextPorts]

theorem nodePortAfter_eq (used : UInt16) : nodePortAfter used = 30000 + used.toNat :=
  rfl

theorem nodePortAfter_add {used : UInt16} {k : Nat} (left : used.toNat + k < 35536) :
    nodePortAfter (used + .ofNat k) = 30000 + (used.toNat + k) := by
  rw [nodePortAfter_eq, UInt16.toNat_add, UInt16.toNat_ofNat']
  omega

/-- Up to the last port that there is, the numbers go up one by one. -/
theorem nextPorts_range {used : UInt16} {count : Nat} (left : used.toNat + count ≤ 35536) :
    nextPorts used count = (List.range count).map fun k => .ofNat (30000 + used.toNat + k) := by
  unfold nextPorts
  apply List.map_congr_left
  intro k hk
  rw [nodePortAfter_add (by have := List.mem_range.mp hk; omega), Nat.add_assoc]

/-- Up to the last port that there is, each is handed out once. -/
theorem nextPorts_nodup {used : UInt16} {count : Nat} (left : used.toNat + count ≤ 35536) :
    (nextPorts used count).Nodup := by
  unfold nextPorts List.Nodup
  rw [List.pairwise_map]
  apply List.pairwise_lt_range.imp_of_mem
  intro i k hi hk hlt heq
  rw [List.mem_range] at hi hk
  rw [nodePortAfter_add (by omega), nodePortAfter_add (by omega)] at heq
  have hnat := Int.ofNat.inj (Json.Number.whole.inj (Json.number.inj heq))
  omega

theorem assignPorts_fills (used : UInt16) (ports : List Json) :
    filledIn ports (assignPorts used ports).1 = nextPorts used (unpinned ports) ∧
      (assignPorts used ports).2 = used + .ofNat (unpinned ports) := by
  induction ports generalizing used with
  | nil => exact ⟨rfl, by simp [assignPorts, unpinned]⟩
  | cons port ports ih =>
    -- A port that gets no number leaves the count as it is.
    have kept : ∀ port' : Json, (port'.member? "nodePort").isSome = true ∨
        port'.isObject = false ∧ port'.member? "nodePort" = none →
        filledIn (port' :: ports) (port' :: (assignPorts used ports).1) =
            nextPorts used (unpinned (port' :: ports)) ∧
          (assignPorts used ports).2 = used + .ofNat (unpinned (port' :: ports)) := by
      intro port' h
      obtain ⟨hfilled, hused⟩ := ih used
      have hcount : unpinned (port' :: ports) = unpinned ports := by
        rcases h with h | ⟨h, -⟩
        · simp [unpinned, Option.isNone_eq_false_iff.mpr h]
        · simp [unpinned, h]
      rw [hcount]
      refine ⟨?_, hused⟩
      rw [← hfilled]
      rcases h with h | ⟨-, h⟩ <;> simp [filledIn, h]
    cases port with
    | object members =>
      cases hport : Table.get? members "nodePort" with
      | some pinned =>
        simp only [assignPorts, hport]
        apply kept
        left
        simp [Json.member?, hport]
      | none =>
        simp only [assignPorts, hport]
        obtain ⟨hfilled, hused⟩ := ih (used + 1)
        have hcount : unpinned (.object members :: ports) = unpinned ports + 1 := by
          simp [unpinned, Json.isObject, Json.member?, hport]
        rw [hcount]
        refine ⟨?_, ?_⟩
        · rw [nextPorts_succ, ← hfilled]
          simp [filledIn, Json.member?, hport, Table.get?_insert_self]
        · rw [hused, UInt16.ofNat_add, UInt16.add_assoc, UInt16.add_comm 1]
          rfl
    | null => exact kept _ (.inr ⟨rfl, rfl⟩)
    | bool b => exact kept _ (.inr ⟨rfl, rfl⟩)
    | number n => exact kept _ (.inr ⟨rfl, rfl⟩)
    | string s => exact kept _ (.inr ⟨rfl, rfl⟩)
    | array items => exact kept _ (.inr ⟨rfl, rfl⟩)

theorem filledIn_self (ports : List Json) : filledIn ports ports = [] := by
  induction ports with
  | nil => rfl
  | cons port ports ih =>
    have hport : filledIn (port :: ports) (port :: ports) = filledIn ports ports := by
      cases h : port.member? "nodePort" <;> simp [filledIn, h]
    exact hport.trans ih

theorem assignNodePorts_fills (used : UInt16) (manifest : Json) :
    filledPorts manifest (assignNodePorts used manifest).1 =
        nextPorts used (missingPorts manifest) ∧
      (assignNodePorts used manifest).2 = used + .ofNat (missingPorts manifest) := by
  unfold assignNodePorts missingPorts
  split
  · cases hports : (manifest.at? ["spec", "ports"]).bind Json.items? with
    | none =>
      have hnone : unpinned (servicePorts manifest) = 0 := by
        rw [servicePorts, hports]
        rfl
      rw [hnone]
      exact ⟨filledIn_self _, by simp⟩
    | some ports =>
      obtain ⟨hfilled, hused⟩ := assignPorts_fills used ports
      obtain ⟨place, hplace, -⟩ := Option.bind_eq_some_iff.mp hports
      have hgiven : (manifest.modifyAt (fun _ => .array (assignPorts used ports).1)
          ["spec", "ports"]).at? ["spec", "ports"] = some (.array (assignPorts used ports).1) := by
        have h := at?_modifyAt_append (fun _ => .array (assignPorts used ports).1) manifest
          ["spec", "ports"] []
        rwa [hplace] at h
      have hasked : servicePorts manifest = ports := by
        rw [servicePorts, hports]
        rfl
      rw [hasked]
      refine ⟨?_, hused⟩
      rw [← hfilled, filledPorts, hasked, servicePorts, hgiven]
      rfl
  · exact ⟨filledIn_self _, by simp⟩

theorem assignPorts_complete {ports : List Json} (complete : unpinned ports = 0) (used : UInt16) :
    (assignPorts used ports).1 = ports := by
  induction ports with
  | nil => rfl
  | cons port ports ih =>
    have hrest : unpinned ports = 0 := by
      rw [unpinned, List.countP_cons] at complete
      exact (Nat.add_eq_zero_iff.mp complete).1
    cases port with
    | object members =>
      cases hport : Table.get? members "nodePort" with
      | some pinned => simp only [assignPorts, hport, ih hrest]
      | none => simp [unpinned, Json.isObject, Json.member?, hport] at complete
    | null | bool | number | string | array => simp only [assignPorts, ih hrest]

/-- An object that leaves no node port to the cluster is stored the same however many were handed
out. -/
theorem assignNodePorts_complete {manifest : Json} (complete : missingPorts manifest = 0)
    (used other : UInt16) :
    (assignNodePorts used manifest).1 = (assignNodePorts other manifest).1 := by
  unfold missingPorts at complete
  unfold assignNodePorts
  split
  next wanted =>
    rw [if_pos wanted] at complete
    cases hports : (manifest.at? ["spec", "ports"]).bind Json.items? with
    | none => rfl
    | some ports =>
      rw [servicePorts, hports] at complete
      have hcomplete : unpinned ports = 0 := complete
      simp only [assignPorts_complete hcomplete]
  next => rfl

/-! ### Manifests and what is stored of them -/

section
variable {manifest object : Json}

theorem servicePorts_congr
    (same : ∀ path, object.at? ("spec" :: path) = manifest.at? ("spec" :: path)) :
    servicePorts object = servicePorts manifest := by
  rw [servicePorts, same]
  rfl

theorem missingPorts_congr
    (same : ∀ path, object.at? ("spec" :: path) = manifest.at? ("spec" :: path)) :
    missingPorts object = missingPorts manifest := by
  rw [missingPorts, missingPorts, servicePorts_congr same, Manifest.wantsNodePorts,
    Manifest.wantsNodePorts, same]

/-- The node ports that a stored object was given are those that its manifest leaves open. -/
theorem filledPorts_congr (used : UInt16)
    (same : ∀ path, object.at? ("spec" :: path) = manifest.at? ("spec" :: path)) :
    filledPorts manifest (assignNodePorts used object).1 =
      nextPorts used (missingPorts manifest) := by
  rw [← missingPorts_congr same, ← (assignNodePorts_fills used object).1]
  unfold filledPorts
  rw [servicePorts_congr same]

end

/-- A manifest is given a status, or none. -/
theorem withStatusOf_cases (stored manifest : Json) :
    (∃ status, withStatusOf stored manifest = manifest.withMember "status" status) ∨
      withStatusOf stored manifest = manifest := by
  unfold withStatusOf
  split
  · exact .inl ⟨_, rfl⟩
  · exact .inr rfl

theorem spec_placedIn (ns : String) (manifest : Json) (path : List String) :
    (Manifest.placedIn ns manifest).at? ("spec" :: path) = manifest.at? ("spec" :: path) :=
  at?_modifyAt_apart _ manifest [] [] path (by decide)

theorem spec_withStatusOf (stored manifest : Json) (path : List String) :
    (withStatusOf stored manifest).at? ("spec" :: path) = manifest.at? ("spec" :: path) := by
  rcases withStatusOf_cases stored manifest with ⟨status, h⟩ | h
  · rw [h]
    exact at?_withMember_of_ne manifest status path (by decide)
  · rw [h]

end ClusterProvisioning.Proofs
