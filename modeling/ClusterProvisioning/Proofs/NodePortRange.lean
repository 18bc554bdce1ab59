import ClusterProvisioning.Proofs.PortSharing

/-!
# The range of node ports

A node port is the first one plus a counter, and both the sum and the counter are numbers of sixteen
bits. Nothing looks at the counter and nothing ever sets it back, so a run goes on without a stop
exactly as long as it asks for no more node ports than there are above the first one, however many
of them have become free since; a call that asks for more stops at the first sum that is out of
range (`node_ports_in_range`).
-/

namespace ClusterProvisioning.Proofs
open Program MemoryCluster

/-- The node ports that were filled in for a manifest in the object under a reference. -/
def filledAt (c : MemoryCluster) (target : Ref) (manifest : Json) : List Json :=
  ((c.object? target).map (filledPorts manifest)).getD []

/-- The node ports that a call fills in that answers so and leaves this cluster. -/
def callNumbers : (call : GatewayCall) → call.Result → MemoryCluster → List Json
  | .create _ _ manifest, .ok made, d => filledAt d made manifest
  | .update target manifest, .ok _, d => filledAt d target manifest
  | _, _, _ => []

namespace ClusterAction

/-- The stop of an action. -/
def halt? : ClusterAction → MemoryCluster → Option (Halt MemoryCluster)
  | .call made, c => gateway.halt? made c
  | _, _ => none

/-- The node ports that an action fills in. -/
def numbers : ClusterAction → MemoryCluster → List Json
  | .call made, c =>
    match gateway.halt? made c with
    | some _ => []
    | none => callNumbers made (gateway.answer made c).1 (gateway.answer made c).2
  | _, _ => []

end ClusterAction

/-- The node ports that some actions fill in, in order. -/
def numbersGiven : List ClusterAction → MemoryCluster → List Json
  | [], _ => []
  | action :: rest, c => action.numbers c ++ numbersGiven rest (action.perform c)

/-- None of some actions stops. -/
def NoneStops : List ClusterAction → MemoryCluster → Prop
  | [], _ => True
  | action :: rest, c => action.halt? c = none ∧ NoneStops rest (action.perform c)

/-! ### Single actions -/

/-- What an action does to the counter: it goes on by the number of node ports that are asked for,
and these are the next ones, or the action stops for want of them and gives none. -/
inductive Counted (c : MemoryCluster) (action : ClusterAction) : Prop
  | given (left : PortsSuffice c.portsHandedOut (action.handsOut c)) (goes : action.halt? c = none)
      (count : (action.perform c).portsHandedOut = c.portsHandedOut + .ofNat (action.handsOut c))
      (numbers : action.numbers c = nextPorts c.portsHandedOut (action.handsOut c))
  | stopped (exceeds : ¬PortsSuffice c.portsHandedOut (action.handsOut c))
      (stops : action.halt? c ≠ none)
      (count : (action.perform c).portsHandedOut.toNat = max c.portsHandedOut.toNat 35536)
      (numbers : action.numbers c = [])

theorem filledAt_put {c d : MemoryCluster} {target : Ref} {manifest object : Json}
    (same : ∀ path, object.at? ("spec" :: path) = manifest.at? ("spec" :: path))
    (put : PutAt c target (assignNodePorts c.portsHandedOut object).1 d) :
    filledAt d target manifest = nextPorts c.portsHandedOut (missingPorts manifest) := by
  rw [← filledPorts_congr c.portsHandedOut same, filledAt, put.self]
  rfl

/-- The node ports that a call fills in are the next ones, as many as it asks for. -/
theorem callNumbers_answer (made : GatewayCall) (c : MemoryCluster) :
    callNumbers made (gateway.answer made c).1 (gateway.answer made c).2 =
      nextPorts c.portsHandedOut (portsAsked made (gateway.answer made c).1) := by
  cases made with
  | create ns kind manifest =>
    change callNumbers (.create ns kind manifest) (c.create ns kind manifest).1
      (c.create ns kind manifest).2 = nextPorts c.portsHandedOut
        (portsAsked (.create ns kind manifest) (c.create ns kind manifest).1)
    rcases answer : c.create ns kind manifest with ⟨report | target, d⟩
    · rfl
    · obtain ⟨name, -, -, put⟩ := create_made answer
      exact filledAt_put (spec_placedIn ns manifest) put
  | update target manifest =>
    change callNumbers (.update target manifest) (c.update target manifest).1
      (c.update target manifest).2 = nextPorts c.portsHandedOut
        (portsAsked (.update target manifest) (c.update target manifest).1)
    rcases answer : c.update target manifest with ⟨report | target, d⟩
    · rfl
    · obtain ⟨stored, put, -⟩ := update_made answer
      exact filledAt_put (spec_withStatusOf stored manifest) put
  | get | delete | listNodes | listPods => rfl

/-- Only a call is given node ports or stops. -/
theorem perform_counted (c : MemoryCluster) (action : ClusterAction) : Counted c action := by
  have idle : ∀ other : ClusterAction, other.handsOut c = 0 → other.halt? c = none →
      other.numbers c = [] → (other.perform c).portsHandedOut = c.portsHandedOut →
      Counted c other := by
    intro other none goes nothing count
    refine .given (.inl none) goes ?_ ?_
    · rw [none, count]
      exact (UInt16.add_zero c.portsHandedOut).symm
    · rw [nothing, none]
      rfl
  cases action with
  | call made =>
    have asked := handsOut_call made c
    rcases halt?_cases made c with ⟨left, goes⟩ | ⟨exceeds, halt, stops, -, used, hused, hstate⟩
    · refine .given (asked ▸ left) goes ?_ ?_
      · rw [asked, ← answer_count]
        simp only [ClusterAction.perform, goes]
      · rw [asked, ← callNumbers_answer]
        simp only [ClusterAction.numbers, goes]
    · refine .stopped (asked ▸ exceeds) (fun goes => ?_) ?_ ?_
      · cases stops.symm.trans goes
      · simp only [ClusterAction.perform, stops, hstate, hused]
      · simp only [ClusterAction.numbers, stops]
  | failAfter | clearFault | clearFaults | insert => exact idle _ rfl rfl rfl rfl
  | setStatus target status =>
    refine idle _ rfl rfl rfl ?_
    rcases perform_setStatus c target status with h | ⟨members, -, h⟩ <;> rw [h]

/-! ### Runs -/

theorem nextPorts_inRange {used : UInt16} {asked : Nat} (left : PortsSuffice used asked)
    {number : Json} (given : number ∈ nextPorts used asked) :
    ∃ n, number = .ofNat n ∧ 30000 ≤ n ∧ n ≤ 65535 := by
  rcases left with rfl | left
  · cases given
  · rw [nextPorts_range left] at given
    obtain ⟨k, hk, rfl⟩ := List.mem_map.mp given
    have hk := List.mem_range.mp hk
    exact ⟨_, rfl, by omega, by omega⟩

theorem numbersGiven_inRange {actions : List ClusterAction} {c : MemoryCluster} {number : Json}
    (given : number ∈ numbersGiven actions c) :
    ∃ n, number = .ofNat n ∧ 30000 ≤ n ∧ n ≤ 65535 := by
  induction actions generalizing c with
  | nil => cases given
  | cons action rest ih =>
    rcases List.mem_append.mp given with now | later
    · cases perform_counted c action with
      | given left goes count numbers => exact nextPorts_inRange left (numbers ▸ now)
      | stopped exceeds stops count numbers =>
        rw [numbers] at now
        cases now
    · exact ih later

/-- The counter never passes the number of node ports that there are. -/
theorem count_bounded (actions : List ClusterAction) (c : MemoryCluster) :
    (afterActions actions c).portsHandedOut.toNat ≤ max c.portsHandedOut.toNat 35536 := by
  induction actions generalizing c with
  | nil => exact Nat.le_max_left _ _
  | cons action rest ih =>
    have hnext : (action.perform c).portsHandedOut.toNat ≤ max c.portsHandedOut.toNat 35536 := by
      cases perform_counted c action with
      | given left goes count numbers =>
        have hused : c.portsHandedOut.toNat < 65536 := c.portsHandedOut.toNat_lt
        rw [count, UInt16.toNat_add, UInt16.toNat_ofNat']
        unfold PortsSuffice at left
        omega
      | stopped exceeds stops count numbers => exact Nat.le_of_eq count
    have hlast := ih (action.perform c)
    change (afterActions rest (action.perform c)).portsHandedOut.toNat ≤ _
    omega

/-- By induction on the actions, each of which goes on from the counter that the one before it
left, and none of which sets it back. -/
theorem noneStops_iff (actions : List ClusterAction) (c : MemoryCluster) :
    NoneStops actions c ↔ PortsSuffice c.portsHandedOut (handedOut actions c) := by
  induction actions generalizing c with
  | nil => exact iff_of_true trivial (.inl rfl)
  | cons action rest ih =>
    rw [handedOut, portsSuffice_add]
    cases perform_counted c action with
    | given left goes count numbers =>
      rw [NoneStops, and_iff_right left, and_iff_right goes, ih, count]
    | stopped exceeds stops count numbers =>
      exact iff_of_false (fun h => stops h.1) (fun h => exceeds h.1)

/-- What a run that goes on without a stop does to the counter, and the numbers that it gives. -/
theorem counts_run {actions : List ClusterAction} {c : MemoryCluster} (goes : NoneStops actions c) :
    (afterActions actions c).portsHandedOut = c.portsHandedOut + .ofNat (handedOut actions c) ∧
      numbersGiven actions c = nextPorts c.portsHandedOut (handedOut actions c) := by
  induction actions generalizing c with
  | nil => exact ⟨(UInt16.add_zero c.portsHandedOut).symm, rfl⟩
  | cons action rest ih =>
    obtain ⟨first, later⟩ := goes
    obtain ⟨hlast, hnumbers⟩ := ih later
    cases perform_counted c action with
    | given left goes count numbers =>
      refine ⟨?_, ?_⟩
      · rw [handedOut, UInt16.ofNat_add, ← UInt16.add_assoc, ← count]
        exact hlast
      · rw [numbersGiven, handedOut, numbers, hnumbers, count, nextPorts_add]
    | stopped exceeds stops count numbers => exact absurd first stops

/-- A run without a stop hands out the numbers in line, and they all are in range. -/
structure RunInRange (c : MemoryCluster) (actions : List ClusterAction) : Prop where
  left : PortsSuffice c.portsHandedOut (handedOut actions c)
  count : (afterActions actions c).portsHandedOut.toNat =
    c.portsHandedOut.toNat + handedOut actions c
  numbers : numbersGiven actions c =
    (List.range (handedOut actions c)).map fun k => .ofNat (30000 + c.portsHandedOut.toNat + k)

theorem runInRange_of_noneStops {actions : List ClusterAction} {c : MemoryCluster}
    (goes : NoneStops actions c) : RunInRange c actions := by
  have left := (noneStops_iff actions c).mp goes
  obtain ⟨hlast, hnumbers⟩ := counts_run goes
  have hused : c.portsHandedOut.toNat < 65536 := c.portsHandedOut.toNat_lt
  refine ⟨left, ?_, ?_⟩
  · rw [hlast, UInt16.toNat_add, UInt16.toNat_ofNat']
    unfold PortsSuffice at left
    omega
  · rw [hnumbers]
    rcases left with none | left
    · rw [none]
      rfl
    · exact nextPorts_range left

/-- Every number that a run gives is in range, and so is the counter. The run has no stop exactly if
it asks for no node port or for no more than are left, and its numbers are those in line then. Where
a call stops, the sum is out of range, and nothing is stored. -/
theorem node_ports_in_range (c : MemoryCluster) (actions : List ClusterAction) :
    (∀ number ∈ numbersGiven actions c, ∃ n, number = .ofNat n ∧ 30000 ≤ n ∧ n ≤ 65535) ∧
      (afterActions actions c).portsHandedOut.toNat ≤ max c.portsHandedOut.toNat 35536 ∧
      (NoneStops actions c ↔ handedOut actions c = 0 ∨
        c.portsHandedOut.toNat + handedOut actions c ≤ 35536) ∧
      (NoneStops actions c → RunInRange c actions) ∧
      ∀ call halt, gateway.halt? call (afterActions actions c) = some halt →
        Stopped (afterActions actions c) call halt ∧
          65535 < nodePortAfter halt.state.portsHandedOut := by
  refine ⟨fun _ => numbersGiven_inRange, count_bounded actions c, noneStops_iff actions c,
    runInRange_of_noneStops, ?_⟩
  intro call halt halts
  refine ⟨stopped_of_halt halts, ?_⟩
  obtain ⟨-, used, hused, hstate⟩ := stopped_of_halt halts
  rw [hstate, nodePortAfter_eq]
  change 65535 < 30000 + used.toNat
  omega

/-- A service takes some node ports and is deleted. -/
def takeAndFree (ports : List Json) : List ClusterAction :=
  [.call (.create "lab" .service (nodePortService "ada" ports)),
    .call (.delete ⟨.service, "lab", "ada"⟩)]

/-- Another service asks for a single node port. -/
def askForOne : GatewayCall := .create "lab" .service (nodePortService "bob" [.object []])

/-- Nothing is left of the service but the counter. -/
theorem after_takeAndFree {ports : List Json} (left : unpinned ports ≤ 35536) :
    afterActions (takeAndFree ports) .empty =
      { MemoryCluster.empty with
        portsHandedOut := .ofNat (unpinned ports)
        calls := [.object .create ⟨.service, "lab", "ada"⟩,
          .object .delete ⟨.service, "lab", "ada"⟩] } := by
  let take : GatewayCall := .create "lab" .service (nodePortService "ada" ports)
  have goes : gateway.halt? take .empty = none := by
    rw [halt?_none_iff]
    exact .inr (Nat.le_trans (Nat.le_of_eq (Nat.zero_add _)) left)
  have taken : ClusterAction.perform (.call take) .empty = (gateway.answer take .empty).2 := by
    simp only [ClusterAction.perform, goes]
  have count : (assignPorts 0 ports).2 = .ofNat (unpinned ports) := by
    rw [(assignPorts_fills 0 ports).2, UInt16.zero_add]
  change ClusterAction.perform (.call (.delete ⟨.service, "lab", "ada"⟩))
    (ClusterAction.perform (.call take) .empty) = _
  rw [taken, ← count]
  rfl

theorem unpinned_replicate (n : Nat) : unpinned (List.replicate n (.object [])) = n := by
  rw [unpinned, List.countP_replicate]
  rfl

/-- Once as many node ports were taken as there are, the next service stops its call, although all
of them are free again. -/
theorem node_ports_run_out :
    let freed := afterActions (takeAndFree (List.replicate 35536 (.object []))) .empty
    freed.objects = [] ∧ ∃ halt, gateway.halt? askForOne freed = some halt ∧
      halt.message = "attempt to add with overflow" ∧ halt.state.objects = [] ∧
      nodePortAfter halt.state.portsHandedOut = 65536 := by
  intro freed
  have hfreed : freed = { MemoryCluster.empty with
      portsHandedOut := .ofNat 35536
      calls := [.object .create ⟨.service, "lab", "ada"⟩,
        .object .delete ⟨.service, "lab", "ada"⟩] } := by
    have h := after_takeAndFree (Nat.le_of_eq (unpinned_replicate 35536))
    rwa [unpinned_replicate] at h
  rw [hfreed]
  exact ⟨rfl, _, rfl, rfl, rfl, rfl⟩

end ClusterProvisioning.Proofs
