import ClusterProvisioning.Proofs.ConcurrentApply

/-!
# Plans applied over what is there

Every unit of a plan takes the place of whatever stands under its name, so what a plan leaves behind
does not depend on what an earlier run did, or how far it came. As long as objects can be created
and deleted a plan is applied as a whole, and applying it again changes nothing but the numbers of
node ports that the cluster picks (`apply_again`).
-/

namespace ClusterProvisioning.Proofs
open Program MemoryCluster

/-- A plan stands on a cluster in place of what was there, and nothing else changed. -/
structure Replaced (base : MemoryCluster) (us : List PlanUnit) (c : MemoryCluster) : Prop where
  stored : ∀ u ∈ us, ∃ object, c.object? u.ref = some object ∧
    StoredAs (placedManifest u) object ∧ Retains u.manifest object ∧
    object.at? ["metadata", "namespace"] = some (.string u.ns)
  others : ∀ target ∉ us.map PlanUnit.ref, c.object? target = base.object? target
  ports : us.flatMap (assignedPorts c) =
    (List.range (portsWanted us)).map fun k => .ofNat (30000 + base.portsHandedOut.toNat + k)
  handedOut : c.portsHandedOut.toNat = base.portsHandedOut.toNat + portsWanted us

/-- The same objects, but for node ports that a cluster picked for these units. -/
def SameButPorts (us : List PlanUnit) (c c' : MemoryCluster) : Prop :=
  ∀ target, c'.object? target = c.object? target ∨
    ∃ u ∈ us, u.ref = target ∧ 0 < missingPorts (placedManifest u) ∧
      ∃ object object', c.object? target = some object ∧ c'.object? target = some object' ∧
        StoredAs (placedManifest u) object ∧ StoredAs (placedManifest u) object'

/-! ### One run -/

section
variable {us : List PlanUnit} {events : List Event} {c c' : MemoryCluster}

/-- A unit that is created gets the next node ports in line. -/
theorem unit_placed {u : PlanUnit} {d e : MemoryCluster} {made : Ref}
    {removed : (GatewayCall.delete u.ref).Result}
    (named : Manifest.name? u.manifest = some u.name) (deleted : c.delete u.ref = (removed, d))
    (created : d.create u.ns u.kind u.manifest = (.ok made, e)) :
    e.object? u.ref = some (assignNodePorts c.portsHandedOut (placedManifest u)).1 ∧
      e.portsHandedOut = c.portsHandedOut + .ofNat (missingPorts (placedManifest u)) := by
  have hd : d.portsHandedOut = c.portsHandedOut := by
    have h := delete_ports c u.ref
    rwa [deleted] at h
  obtain ⟨name, hname, rfl, hstore⟩ := create_made created
  obtain rfl : name = u.name := Option.some.inj (hname.symm.trans named)
  constructor
  · rw [← hd]
    exact (hstore u.ref).trans (if_pos rfl)
  · rw [create_ports created, hd]
    exact (assignNodePorts_fills c.portsHandedOut (placedManifest u)).2

/-- A unit is stored with the node ports that come after those of the units before it. -/
theorem created_stored {before after : List PlanUnit} {u : PlanUnit}
    (created : UnitsCreated us events) (hus : us = before ++ u :: after)
    (named : ∀ v ∈ us, Manifest.name? v.manifest = some v.name)
    (distinct : (us.map PlanUnit.ref).Nodup) (served : Serves gateway c events c') :
    c'.object? u.ref = some (assignNodePorts (c.portsHandedOut + .ofNat (portsWanted before))
      (placedManifest u)).1 := by
  induction created generalizing c before with
  | nil =>
    have hlength := congrArg List.length hus
    rw [List.length_append, List.length_cons] at hlength
    cases hlength
  | @cons v us events removed made settled rest ih =>
    obtain ⟨d, hdelete, e, hcreate, hrest⟩ := served
    obtain ⟨hnamed, hothers⟩ := List.forall_mem_cons.mp named
    obtain ⟨hfresh, hdistinct⟩ := List.nodup_cons.mp distinct
    obtain ⟨hobject, hused⟩ := unit_placed hnamed hdelete hcreate
    cases before with
    | nil =>
      obtain ⟨rfl, -⟩ := List.cons.inj hus
      have hzero : c.portsHandedOut + .ofNat (portsWanted []) = c.portsHandedOut :=
        UInt16.add_zero _
      rw [confined_frame_outside (created_confined rest hothers) hrest hfresh, hzero]
      exact hobject
    | cons w before =>
      obtain ⟨rfl, hsplit⟩ := List.cons.inj hus
      rw [ih hsplit hothers hdistinct hrest, hused, portsWanted_cons, UInt16.ofNat_add,
        UInt16.add_assoc]

/-- The node ports that a run picks are the next ones in line. -/
theorem created_ports (created : UnitsCreated us events)
    (named : ∀ u ∈ us, Manifest.name? u.manifest = some u.name)
    (distinct : (us.map PlanUnit.ref).Nodup) (served : Serves gateway c events c') :
    us.flatMap (assignedPorts c') = nextPorts c.portsHandedOut (portsWanted us) ∧
      c'.portsHandedOut = c.portsHandedOut + .ofNat (portsWanted us) := by
  induction created generalizing c with
  | nil =>
    obtain rfl : c' = c := served
    exact ⟨rfl, by simp [portsWanted]⟩
  | @cons u us events removed made settled rest ih =>
    obtain ⟨d, hdelete, e, hcreate, hrest⟩ := served
    obtain ⟨hnamed, hothers⟩ := List.forall_mem_cons.mp named
    obtain ⟨hfresh, hdistinct⟩ := List.nodup_cons.mp distinct
    obtain ⟨hobject, hused⟩ := unit_placed hnamed hdelete hcreate
    obtain ⟨hports, hlast⟩ := ih hothers hdistinct hrest
    have hassigned : assignedPorts c' u =
        nextPorts c.portsHandedOut (missingPorts (placedManifest u)) := by
      rw [assignedPorts, confined_frame_outside (created_confined rest hothers) hrest hfresh,
        hobject, ← (assignNodePorts_fills c.portsHandedOut (placedManifest u)).1]
      rfl
    rw [List.flatMap_cons, hports, hlast, portsWanted_cons, hused, hassigned, nextPorts_add,
      UInt16.ofNat_add, UInt16.add_assoc]
    exact ⟨rfl, rfl⟩

/-- A run asks for the node ports of its units. -/
theorem created_asks (created : UnitsCreated us events) : portsAskedIn events = portsWanted us := by
  induction created with
  | nil => rfl
  | @cons u us events removed made settled rest ih =>
    rw [portsWanted_cons, missingPorts_placedManifest, ← ih]
    exact Nat.zero_add _

theorem created_replaced (created : UnitsCreated us events)
    (named : ∀ u ∈ us, Manifest.name? u.manifest = some u.name)
    (distinct : (us.map PlanUnit.ref).Nodup)
    (left : c.portsHandedOut.toNat + portsWanted us ≤ 35536)
    (served : Serves gateway c events c') : Replaced c us c' := by
  obtain ⟨hports, hlast⟩ := created_ports created named distinct served
  refine ⟨?_, ?_, ?_, ?_⟩
  · intro u hu
    obtain ⟨object, hstored, hobject⟩ := created_objects created named distinct served u hu
    refine ⟨object, hobject, hstored, ?_, ?_⟩
    · exact (retains_placedIn u.ns u.manifest).trans (retains_of_stored hstored)
    · rw [storedAs_apart hstored (by decide)]
      exact placedIn_namespace (named u hu) u.ns
  · exact fun target outside =>
      confined_frame_outside (created_confined created named) served outside
  · rw [hports, nextPorts_range left]
  · rw [hlast, UInt16.toNat_add, UInt16.toNat_ofNat']
    omega

end

/-! ### Applying again -/

theorem replaced_again {base c c' : MemoryCluster} {us : List PlanUnit}
    (first : Replaced base us c) (second : Replaced c us c') : SameButPorts us c c' := by
  intro target
  by_cases hunit : target ∈ us.map PlanUnit.ref
  · obtain ⟨u, hu, rfl⟩ := List.mem_map.mp hunit
    obtain ⟨object, hobject, hstored, -, -⟩ := first.stored u hu
    obtain ⟨object', hobject', hstored', -, -⟩ := second.stored u hu
    rcases Nat.eq_zero_or_pos (missingPorts (placedManifest u)) with complete | missing
    · left
      obtain ⟨used, rfl⟩ := hstored
      obtain ⟨used', rfl⟩ := hstored'
      rw [hobject, hobject', assignNodePorts_complete complete used']
    · exact .inr ⟨u, hu, rfl, missing, object, object', hobject, hobject', hstored, hstored'⟩
  · exact .inl (second.others target hunit)

/-- A plan is applied as a whole to a cluster that creates and deletes objects without faults,
whatever stands there, and applied again it leaves the same objects but for node ports. Neither run
stops, as there are node ports for both. -/
theorem apply_again (c : MemoryCluster) (us : List PlanUnit) (calm : Calm c)
    (named : ∀ u ∈ us, Manifest.name? u.manifest = some u.name)
    (distinct : (us.map PlanUnit.ref).Nodup)
    (left : c.portsHandedOut.toNat + 2 * portsWanted us ≤ 35536) :
    let (first, c', _) := (Apply.units us .never).run gateway c
    let (second, c'', _) := (Apply.units us .never).run gateway c'
    first = ⟨us.map PlanUnit.ref, none, none⟩ ∧ second = first ∧ Replaced c us c' ∧
      Replaced c' us c'' ∧ SameButPorts us c' c'' ∧
      ((Apply.units us .never).exec gateway c).1 = .ok first ∧
      ((Apply.units us .never).exec gateway c').1 = .ok second := by
  rcases h : (Apply.units us .never).run gateway c with ⟨first, c', events⟩
  rcases h' : (Apply.units us .never).run gateway c' with ⟨second, c'', later⟩
  obtain ⟨traced, served⟩ := (run_eq_iff _ _ _ _ _ _).mp h
  obtain ⟨traced', served'⟩ := (run_eq_iff _ _ _ _ _ _).mp h'
  obtain ⟨created, rfl⟩ := units_calm calm named (course_of_traces traced) served
  obtain ⟨created', rfl⟩ :=
    units_calm (serves_calm calm served) named (course_of_traces traced') served'
  have replaced := created_replaced created named distinct (by omega) served
  have hlast := replaced.handedOut
  have replaced' := created_replaced created' named distinct (by omega) served'
  have executed := (exec_of_run h).mpr (.inr (by rw [created_asks created]; omega))
  have executed' := (exec_of_run h').mpr (.inr (by rw [created_asks created']; omega))
  dsimp only
  rw [h', executed, executed']
  exact ⟨rfl, rfl, replaced, replaced', replaced_again replaced replaced', rfl, rfl⟩

/-- A pod and a service that asks for a node port. -/
def podAndService : List PlanUnit := [bareUnit .pod "one", nodePortUnit "two"]

/-- A cluster with a leftover under one name, where some node ports are handed out and the pod
cannot be fetched. -/
def leftoverCluster : MemoryCluster :=
  { (MemoryCluster.empty.failOn .get "one").insertObject "ns" .service
      (.object [("metadata", .object [("name", .string "two")]), ("status", .string "old")]) with
    portsHandedOut := 7 }

theorem apply_again_leftover :
    Calm leftoverCluster ∧ (∀ u ∈ podAndService, Manifest.name? u.manifest = some u.name) ∧
      (podAndService.map PlanUnit.ref).Nodup ∧
      leftoverCluster.portsHandedOut.toNat + 2 * portsWanted podAndService ≤ 35536 ∧
      let (first, c, _) := (Apply.units podAndService .never).run gateway leftoverCluster
      let (second, c', _) := (Apply.units podAndService .never).run gateway c
      first = ⟨podAndService.map PlanUnit.ref, none, none⟩ ∧ second = first ∧
        podAndService.flatMap (assignedPorts c) = [.ofNat 30007] ∧
        podAndService.flatMap (assignedPorts c') = [.ofNat 30008] ∧
        SameButPorts podAndService c c' ∧
        ((Apply.units podAndService .never).exec gateway c).1 = .ok second := by
  have calm : Calm leftoverCluster := ⟨fun _ => rfl, fun _ => rfl⟩
  have named : ∀ u ∈ podAndService, Manifest.name? u.manifest = some u.name := by decide
  have distinct : (podAndService.map PlanUnit.ref).Nodup := by decide
  have left : leftoverCluster.portsHandedOut.toNat + 2 * portsWanted podAndService ≤ 35536 := by
    decide
  have h := apply_again leftoverCluster podAndService calm named distinct left
  obtain ⟨applied, again, -, -, same, -, executed⟩ := h
  exact ⟨calm, named, distinct, left, applied, again, rfl, rfl, same, executed⟩

end ClusterProvisioning.Proofs
