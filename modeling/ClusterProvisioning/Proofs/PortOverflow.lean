import ClusterProvisioning.Proofs.ClusterStore
import ClusterProvisioning.Proofs.NodePorts

/-!
# Calls that run out of node ports

There are node ports as long as the number of the next one fits sixteen bits, however many of those
that were handed out are in use. A call that asks for more than are left stops: it is logged and
counted by its fault as if it had been answered, but nothing is stored (`halt?_cases`). So a program
ends as in its run exactly if its calls ask for no more node ports than are left
(`exec_of_run`).
-/

namespace ClusterProvisioning.Proofs
open Program MemoryCluster

/-- So many node ports can still be handed out when some are. -/
def PortsSuffice (used : UInt16) (asked : Nat) : Prop :=
  asked = 0 ∨ used.toNat + asked ≤ 35536

/-- How many node ports a call asks for that comes so far as to store its object. -/
def portsAsked : (call : GatewayCall) → call.Result → Nat
  | .create _ _ manifest, result | .update _ manifest, result =>
    if result.isOk then missingPorts manifest else 0
  | .get _, _ | .delete _, _ | .listNodes, _ | .listPods _, _ => 0

/-- How many node ports the calls of some events ask for. -/
def portsAskedIn : List Event → Nat
  | [] => 0
  | .call c result :: rest => portsAsked c result + portsAskedIn rest
  | .audit _ :: rest => portsAskedIn rest

/-- What a call leaves that stops at a node port. -/
structure Stopped (c : MemoryCluster) (call : GatewayCall) (halt : Halt MemoryCluster) : Prop where
  message : halt.message = overflowMessage
  state : ∃ used : UInt16, used.toNat = max c.portsHandedOut.toNat 35536 ∧
    halt.state = { (gateway.answer call c).2 with objects := c.objects, portsHandedOut := used }

/-- A create or an update answers with an error, or it stores an object with the ports of its
manifest, unless these stop it. Either way it is logged and counted by its fault. -/
inductive Storing (c : MemoryCluster) (manifest : Json) :
    Except (Report GatewayError) Ref × MemoryCluster → Option (Halt MemoryCluster) → Prop
  | refused (report : Report GatewayError) (faults : Assoc (ObjectOp × String) Nat)
      (calls : List LoggedCall) :
      Storing c manifest (.error report, { c with faults := faults, calls := calls }) none
  | stored (target : Ref) (object : Json) (faults : Assoc (ObjectOp × String) Nat)
      (calls : List LoggedCall)
      (same : ∀ path, object.at? ("spec" :: path) = manifest.at? ("spec" :: path)) :
      Storing c manifest
        (.ok target, { c with faults := faults, calls := calls }.store target object)
        ({ c with faults := faults, calls := calls }.overflow? object)

/-! ### Additions -/

theorem portsSuffice_add (used : UInt16) (m n : Nat) :
    PortsSuffice used (m + n) ↔ PortsSuffice used m ∧ PortsSuffice (used + .ofNat m) n := by
  have hused : used.toNat < 65536 := used.toNat_lt
  unfold PortsSuffice
  rw [UInt16.toNat_add, UInt16.toNat_ofNat']
  omega

theorem portsSuffice_mono {used : UInt16} {m n : Nat} (left : PortsSuffice used n) (h : m ≤ n) :
    PortsSuffice used m := by
  unfold PortsSuffice at *
  omega

theorem overflowAt?_none_iff (used : UInt16) (ports : List Json) :
    overflowAt? used ports = none ↔ PortsSuffice used (unpinned ports) := by
  induction ports generalizing used with
  | nil => exact iff_of_true rfl (.inl rfl)
  | cons port ports ih =>
    rw [unpinned_cons]
    cases port with
    | object members =>
      cases pinned : Table.get? members "nodePort" with
      | some number => simpa [overflowAt?, Json.isObject, Json.member?, pinned] using ih used
      | none =>
        have next : PortsSuffice used 1 ↔ nodePortAfter used < UInt16.size := by
          have size : UInt16.size = 65536 := rfl
          rw [PortsSuffice, nodePortAfter_eq, size]
          omega
        have rest : PortsSuffice used (unpinned ports + 1) ↔
            nodePortAfter used < UInt16.size ∧ PortsSuffice (used + 1) (unpinned ports) := by
          rw [Nat.add_comm, portsSuffice_add, next]
          rfl
        simp only [overflowAt?, Json.isObject, Json.member?, pinned, Option.isNone_none,
          Bool.and_self, if_true]
        rw [rest, ← ih (used + 1)]
        split
        next fits => exact (and_iff_right fits).symm
        next exceeds => exact iff_of_false (Option.some_ne_none used) fun h => exceeds h.1
    | null | bool | number | string | array => exact ih used

/-- All numbers up to the last one were handed out, if they had not been before. -/
theorem toNat_overflowAt? {used last : UInt16} {ports : List Json}
    (overflows : overflowAt? used ports = some last) : last.toNat = max used.toNat 35536 := by
  induction ports generalizing used with
  | nil => cases overflows
  | cons port ports ih =>
    cases port with
    | object members =>
      cases pinned : Table.get? members "nodePort" with
      | some number =>
        rw [overflowAt?, pinned] at overflows
        exact ih overflows
      | none =>
        have size : UInt16.size = 65536 := rfl
        rw [overflowAt?, pinned] at overflows
        dsimp only at overflows
        split at overflows
        next fits =>
          rw [nodePortAfter_eq, size] at fits
          have hnext : (used + 1).toNat = used.toNat + 1 := by
            rw [UInt16.toNat_add]
            change (used.toNat + 1) % 65536 = _
            omega
          rw [ih overflows, hnext]
          omega
        next exceeds =>
          rw [nodePortAfter_eq, size] at exceeds
          cases overflows
          omega
    | null | bool | number | string | array => exact ih overflows

/-- An object that asks for more node ports than are left stops the call. -/
theorem overflow?_cases (c : MemoryCluster) (object : Json) :
    (PortsSuffice c.portsHandedOut (missingPorts object) ∧ c.overflow? object = none) ∨
      ¬PortsSuffice c.portsHandedOut (missingPorts object) ∧
        ∃ used : UInt16, used.toNat = max c.portsHandedOut.toNat 35536 ∧
          c.overflow? object = some ⟨overflowMessage, { c with portsHandedOut := used }⟩ := by
  unfold MemoryCluster.overflow? missingPorts
  split
  · cases hports : (object.at? ["spec", "ports"]).bind Json.items? with
    | none =>
      have hnone : servicePorts object = [] := by
        rw [servicePorts, hports]
        rfl
      rw [hnone]
      exact .inl ⟨.inl rfl, rfl⟩
    | some ports =>
      have hasked : servicePorts object = ports := by
        rw [servicePorts, hports]
        rfl
      rw [hasked, ← overflowAt?_none_iff]
      cases overflows : overflowAt? c.portsHandedOut ports with
      | none => exact .inl ⟨rfl, by simp [overflows]⟩
      | some used =>
        have last := toNat_overflowAt? overflows
        exact .inr ⟨Option.some_ne_none used, used, last, by simp [overflows]⟩
  · exact .inl ⟨.inl rfl, rfl⟩

/-! ### Calls -/

theorem create_storing (c : MemoryCluster) (ns : String) (kind : Kind) (manifest : Json) :
    Storing c manifest (c.create ns kind manifest) (halt? (.create ns kind manifest) c) := by
  simp only [halt?, Option.bind_eq_bind]
  unfold MemoryCluster.create MemoryCluster.passed?
  cases Manifest.name? manifest with
  | none => exact .refused _ c.faults c.calls
  | some name =>
    dsimp only [Option.bind_some]
    rcases record_cases c .create ⟨kind, ns, name⟩ with
      ⟨report, faults, calls, -, hrecord⟩ | ⟨faults, calls, hrecord⟩
    · rw [hrecord]
      exact .refused report faults calls
    · rw [hrecord]
      dsimp only [Option.bind_some]
      cases MemoryCluster.object? { c with faults := faults, calls := calls } ⟨kind, ns, name⟩ with
      | some stored => exact .refused _ faults calls
      | none => exact .stored _ _ faults calls (spec_placedIn ns manifest)

theorem update_storing (c : MemoryCluster) (target : Ref) (manifest : Json) :
    Storing c manifest (c.update target manifest) (halt? (.update target manifest) c) := by
  simp only [halt?, Option.bind_eq_bind]
  unfold MemoryCluster.update MemoryCluster.passed?
  rcases record_cases c .update target with
    ⟨report, faults, calls, -, hrecord⟩ | ⟨faults, calls, hrecord⟩
  · rw [hrecord]
    exact .refused report faults calls
  · rw [hrecord]
    dsimp only [Option.bind_some]
    cases MemoryCluster.object? { c with faults := faults, calls := calls } target with
    | some stored => exact .stored _ _ faults calls (spec_withStatusOf stored manifest)
    | none => exact .refused _ faults calls

section
variable {c : MemoryCluster} {manifest : Json}
  {answer : Except (Report GatewayError) Ref × MemoryCluster} {halted : Option (Halt MemoryCluster)}

theorem storing_count (storing : Storing c manifest answer halted) :
    answer.2.portsHandedOut =
      c.portsHandedOut + .ofNat (if answer.1.isOk then missingPorts manifest else 0) := by
  cases storing with
  | refused report faults calls => exact (UInt16.add_zero c.portsHandedOut).symm
  | stored target object faults calls same =>
    rw [← missingPorts_congr same]
    exact (assignNodePorts_fills c.portsHandedOut object).2

theorem storing_halts (storing : Storing c manifest answer halted) :
    let asked := if answer.1.isOk then missingPorts manifest else 0
    (PortsSuffice c.portsHandedOut asked ∧ halted = none) ∨
      ¬PortsSuffice c.portsHandedOut asked ∧
        ∃ used : UInt16, used.toNat = max c.portsHandedOut.toNat 35536 ∧
          halted = some ⟨overflowMessage,
            { answer.2 with objects := c.objects, portsHandedOut := used }⟩ := by
  cases storing with
  | refused report faults calls => exact .inl ⟨.inl rfl, rfl⟩
  | stored target object faults calls same =>
    have h := overflow?_cases { c with faults := faults, calls := calls } object
    rw [missingPorts_congr same] at h
    exact h

end

/-- A call hands out the node ports that it asks for. -/
theorem answer_count (call : GatewayCall) (c : MemoryCluster) :
    (gateway.answer call c).2.portsHandedOut =
      c.portsHandedOut + .ofNat (portsAsked call (gateway.answer call c).1) := by
  have none : c.portsHandedOut = c.portsHandedOut + .ofNat 0 :=
    (UInt16.add_zero c.portsHandedOut).symm
  cases call with
  | create ns kind manifest => exact storing_count (create_storing c ns kind manifest)
  | update target manifest => exact storing_count (update_storing c target manifest)
  | get target => exact (get_ports c target).trans none
  | delete target => exact (delete_ports c target).trans none
  | listNodes =>
    obtain ⟨calls, h⟩ := @answer_lists c .listNodes trivial
    rw [h]
    exact none
  | listPods node =>
    obtain ⟨calls, h⟩ := @answer_lists c (.listPods node) trivial
    rw [h]
    exact none

/-- A call stops exactly if it asks for more node ports than are left. -/
theorem halt?_cases (call : GatewayCall) (c : MemoryCluster) :
    let asked := portsAsked call (gateway.answer call c).1
    (PortsSuffice c.portsHandedOut asked ∧ gateway.halt? call c = none) ∨
      ¬PortsSuffice c.portsHandedOut asked ∧
        ∃ halt, gateway.halt? call c = some halt ∧ Stopped c call halt := by
  cases call with
  | create ns kind manifest =>
    exact (storing_halts (create_storing c ns kind manifest)).imp id
      fun ⟨exceeds, used, hused, halts⟩ => ⟨exceeds, _, halts, rfl, used, hused, rfl⟩
  | update target manifest =>
    exact (storing_halts (update_storing c target manifest)).imp id
      fun ⟨exceeds, used, hused, halts⟩ => ⟨exceeds, _, halts, rfl, used, hused, rfl⟩
  | get | delete | listNodes | listPods => exact .inl ⟨.inl rfl, rfl⟩

theorem portsAsked_error (call : GatewayCall) (report : Report GatewayError) :
    portsAsked call (.error report) = 0 := by
  cases call <;> rfl

theorem portsAsked_create_le (ns : String) (kind : Kind) (manifest : Json)
    (result : (GatewayCall.create ns kind manifest).Result) :
    portsAsked (.create ns kind manifest) result ≤ missingPorts manifest := by
  cases result with
  | ok made => exact Nat.le_refl _
  | error report => exact Nat.zero_le _

theorem halt?_none_iff (call : GatewayCall) (c : MemoryCluster) :
    gateway.halt? call c = none ↔
      PortsSuffice c.portsHandedOut (portsAsked call (gateway.answer call c).1) := by
  rcases halt?_cases call c with ⟨left, none⟩ | ⟨exceeds, halt, halts, -⟩
  · exact iff_of_true none left
  · exact iff_of_false (fun none => by cases halts.symm.trans none) exceeds

theorem stopped_of_halt {call : GatewayCall} {c : MemoryCluster} {halt : Halt MemoryCluster}
    (halts : gateway.halt? call c = some halt) : Stopped c call halt := by
  rcases halt?_cases call c with ⟨-, none⟩ | ⟨-, other, hother, stopped⟩
  · cases halts.symm.trans none
  · obtain rfl := Option.some.inj (halts.symm.trans hother)
    exact stopped

/-! ### Programs -/

/-- By induction on the events, each call going on from the counter that the one before it left. -/
theorem unhalted_iff {c c' : MemoryCluster} {events : List Event}
    (served : Serves gateway c events c') :
    c'.portsHandedOut = c.portsHandedOut + .ofNat (portsAskedIn events) ∧
      (Unhalted gateway c events ↔ PortsSuffice c.portsHandedOut (portsAskedIn events)) := by
  induction events generalizing c with
  | nil =>
    obtain rfl : c' = c := served
    exact ⟨(UInt16.add_zero c'.portsHandedOut).symm, iff_of_true trivial (.inl rfl)⟩
  | cons event rest ih =>
    cases event with
    | call made result =>
      obtain ⟨next, answer, hrest⟩ := served
      obtain ⟨hlast, hunhalted⟩ := ih hrest
      have count := answer_count made c
      rw [answer] at count
      dsimp only at count
      constructor
      · rw [hlast, count, portsAskedIn, UInt16.ofNat_add, UInt16.add_assoc]
      · rw [portsAskedIn, portsSuffice_add, ← count, ← hunhalted, Unhalted, halt?_none_iff, answer]
    | audit event => exact ih served

/-- A program that runs to an end on a cluster ends as in its run exactly if the cluster has all the
node ports left that the calls of the run ask for. -/
theorem exec_of_run {α : Type} {p : Program α} {a : α} {c c' : MemoryCluster}
    {events : List Event} (run : p.run gateway c = (a, c', events)) :
    p.exec gateway c = (.ok a, c', events) ↔
      PortsSuffice c.portsHandedOut (portsAskedIn events) := by
  obtain ⟨-, served⟩ := (run_eq_iff _ _ _ _ _ _).mp run
  rw [exec_eq_ok_iff, and_iff_right run]
  exact (unhalted_iff served).2

end ClusterProvisioning.Proofs
