import ClusterProvisioning.Proofs.ClusterRuns
import ClusterProvisioning.Proofs.LiveObjects
import ClusterProvisioning.Proofs.NodePorts
import Mathlib.Logic.Function.Basic

/-!
# Node ports that two ports share

A cluster gives a port without a node port the next number in line, and never gives a number twice
while there are numbers left; but it does not look at the node ports that manifests pin. So over any
run a port that was given its number shares it with another port exactly if the manifest of a stored
object pins that number (`given_port_shared`). `PortBook` is the invariant: it tells the ports as
the manifests list them from the ports as they are stored.
-/

namespace ClusterProvisioning.Proofs
open Program MemoryCluster

/-- The node port of a port of a list. -/
def nodePortOf? (ports : List Json) (i : Nat) : Option Json :=
  ports[i]?.bind fun port => port.member? "nodePort"

/-- The ports that stand under each reference. -/
def storedPorts (c : MemoryCluster) (target : Ref) : List Json :=
  ((c.object? target).map servicePorts).getD []

namespace ClusterAction

/-- The ports that the manifests of stored objects list, kept up to date with an action. -/
def list : ClusterAction → MemoryCluster → (Ref → List Json) → Ref → List Json
  | .call (.create ns kind manifest), c, listed =>
    match (c.create ns kind manifest).1 with
    | .ok made => Function.update listed made (servicePorts manifest)
    | .error _ => listed
  | .call (.update target manifest), c, listed =>
    match (c.update target manifest).1 with
    | .ok _ => Function.update listed target (servicePorts manifest)
    | .error _ => listed
  | .call (.delete target), c, listed =>
    match (c.delete target).1 with
    | .ok _ => Function.update listed target []
    | .error _ => listed
  | .insert ns kind object, _, listed =>
    Function.update listed ⟨kind, ns, (Manifest.name? object).getD ""⟩ (servicePorts object)
  | _, _, listed => listed

/-- How many node ports an action hands out, if it does not stop for want of them. -/
def handsOut : ClusterAction → MemoryCluster → Nat
  | .call (.create ns kind manifest), c =>
    if (c.create ns kind manifest).1.isOk then missingPorts manifest else 0
  | .call (.update target manifest), c =>
    if (c.update target manifest).1.isOk then missingPorts manifest else 0
  | _, _ => 0

end ClusterAction

/-- The ports that the manifests of stored objects list after some actions. What is stored before
them counts as its own manifest. -/
def listedPorts : List ClusterAction → MemoryCluster → (Ref → List Json) → Ref → List Json
  | [], _, listed => listed
  | action :: rest, c, listed => listedPorts rest (action.perform c) (action.list c listed)

/-- How many node ports some actions hand out, if none stops for want of them. -/
def handedOut : List ClusterAction → MemoryCluster → Nat
  | [], _ => 0
  | action :: rest, c => action.handsOut c + handedOut rest (action.perform c)

/-- A port that its manifest lists without a node port has a number. -/
def GivenPort (listed stored : Ref → List Json) (target : Ref) (i : Nat) (number : Json) : Prop :=
  nodePortOf? (listed target) i = none ∧ nodePortOf? (stored target) i = some number

/-! ### Filling in the ports of one object -/

/-- What becomes of the ports of a manifest when those without a node port are given numbers, after
some were handed out and until some are. -/
structure Fills (used last : UInt16) (listed stored : List Json) : Prop where
  count : used.toNat ≤ last.toNat
  pinned : ∀ i number, nodePortOf? listed i = some number → nodePortOf? stored i = some number
  given : ∀ i number, nodePortOf? listed i = none → nodePortOf? stored i = some number →
    ∃ k, number = .ofNat k ∧ 30000 + used.toNat ≤ k ∧ k < 30000 + last.toNat
  distinct : ∀ i j number, nodePortOf? listed i = none → nodePortOf? listed j = none →
    nodePortOf? stored i = some number → nodePortOf? stored j = some number → i = j

theorem fills_same (used : UInt16) (ports : List Json) : Fills used used ports ports where
  count := Nat.le_refl _
  pinned _ _ h := h
  given _ _ absent present := by cases absent.symm.trans present
  distinct _ _ _ absent _ present := by cases absent.symm.trans present

theorem ofNat_inj {m n : Nat} (h : Json.ofNat m = .ofNat n) : m = n :=
  Int.ofNat.inj (Json.Number.whole.inj (Json.number.inj h))

/-- A port without a node port is given the number in line after those of the earlier ports. By
induction on the ports, the first of them taken off. -/
theorem assignPorts_number (used : UInt16) {ports : List Json} {i : Nat} {members : Table Json}
    (place : ports[i]? = some (.object members)) (absent : Table.get? members "nodePort" = none) :
    nodePortOf? (assignPorts used ports).1 i =
      some (.ofNat (nodePortAfter (used + .ofNat (unpinned (ports.take i))))) := by
  induction ports generalizing used i with
  | nil => cases place
  | cons port ports ih =>
    cases i with
    | zero =>
      obtain rfl := Option.some.inj place
      have first : used + .ofNat (unpinned ((Json.object members :: ports).take 0)) = used :=
        UInt16.add_zero used
      simp only [assignPorts, absent, first]
      exact Table.get?_insert_self members "nodePort" _
    | succ i =>
      rw [List.take_succ_cons, unpinned_cons]
      cases port with
      | object others =>
        cases hport : Table.get? others "nodePort" with
        | some pinned =>
          simp only [assignPorts, hport, Json.member?, Option.isNone_some, Bool.and_false]
          exact ih used place
        | none =>
          simp only [assignPorts, hport, Json.isObject, Json.member?, Option.isNone_none,
            Bool.and_true, if_true]
          rw [UInt16.ofNat_add, UInt16.add_comm _ (.ofNat 1), ← UInt16.add_assoc used]
          exact ih (used + 1) place
      | null | bool | number | string | array => exact ih used place

/-- There are more unpinned ports up to a later place than up to the place of one. -/
theorem unpinned_take_lt {ports : List Json} {i j : Nat} {members : Table Json}
    (place : ports[i]? = some (.object members)) (absent : Table.get? members "nodePort" = none)
    (later : i < j) : unpinned (ports.take i) < unpinned (ports.take j) := by
  have next : unpinned (ports.take (i + 1)) = unpinned (ports.take i) + 1 := by
    rw [List.take_add_one, place, unpinned, List.countP_append]
    simp [unpinned, Json.isObject, Json.member?, absent]
  have within : unpinned (ports.take (i + 1)) ≤ unpinned (ports.take j) :=
    (List.take_sublist_take_left later).countP_le
  omega

/-- A node port that is listed is stored. -/
theorem assignPorts_pinned (used : UInt16) (ports : List Json) (i : Nat) {number : Json}
    (pinned : nodePortOf? ports i = some number) :
    nodePortOf? (assignPorts used ports).1 i = some number := by
  rcases assignPorts_item used ports i with same | ⟨members, value, hport, absent, -⟩
  · unfold nodePortOf?
    rw [same]
    exact pinned
  · unfold nodePortOf? at pinned
    rw [hport] at pinned
    cases absent.symm.trans pinned

/-- A port that is given a number is one without a node port. -/
theorem open_of_given {used : UInt16} {ports : List Json} {i : Nat} {number : Json}
    (absent : nodePortOf? ports i = none)
    (given : nodePortOf? (assignPorts used ports).1 i = some number) :
    ∃ members, ports[i]? = some (.object members) ∧ Table.get? members "nodePort" = none := by
  rcases assignPorts_item used ports i with same | ⟨members, value, place, missing, -⟩
  · unfold nodePortOf? at absent given
    rw [same] at given
    cases absent.symm.trans given
  · exact ⟨members, place, missing⟩

theorem assignPorts_fills_list {used : UInt16} {ports : List Json}
    (left : used.toNat + unpinned ports ≤ 35536) :
    Fills used (assignPorts used ports).2 ports (assignPorts used ports).1 := by
  have hlast : (assignPorts used ports).2.toNat = used.toNat + unpinned ports := by
    rw [(assignPorts_fills used ports).2, UInt16.toNat_add, UInt16.toNat_ofNat']
    omega
  have within : ∀ i number, nodePortOf? ports i = none →
      nodePortOf? (assignPorts used ports).1 i = some number →
      number = .ofNat (30000 + (used.toNat + unpinned (ports.take i))) ∧
        unpinned (ports.take i) < unpinned ports ∧
        ∀ j, i < j → unpinned (ports.take i) < unpinned (ports.take j) := by
    intro i number absent given
    obtain ⟨members, place, missing⟩ := open_of_given absent given
    have later := fun j => @unpinned_take_lt ports i j members place missing
    have whole : unpinned (ports.take i) < unpinned ports := by
      have h := later (max (i + 1) ports.length) (by omega)
      rwa [List.take_of_length_le (Nat.le_max_right _ _)] at h
    refine ⟨?_, whole, later⟩
    rw [assignPorts_number used place missing, Option.some.injEq] at given
    rw [← given, nodePortAfter_add (by omega)]
  refine ⟨by omega, fun i number => assignPorts_pinned used ports i, ?_, ?_⟩
  · intro i number absent given
    obtain ⟨hnumber, hlt, -⟩ := within i number absent given
    exact ⟨_, hnumber, by omega, by omega⟩
  · intro i j number hi hj hgiven hother
    obtain ⟨hnumber, -, first⟩ := within i number hi hgiven
    obtain ⟨hsecond, -, second⟩ := within j number hj hother
    have heq := ofNat_inj (hnumber.symm.trans hsecond)
    have := first j
    have := second i
    omega

/-! ### Filling in the ports of a stored object -/

theorem assignNodePorts_ports (used : UInt16) (object : Json) :
    servicePorts (assignNodePorts used object).1 =
        (if Manifest.wantsNodePorts object then (assignPorts used (servicePorts object)).1
        else servicePorts object) ∧
      (assignNodePorts used object).2 =
        if Manifest.wantsNodePorts object then (assignPorts used (servicePorts object)).2
        else used := by
  unfold assignNodePorts
  split
  next =>
    cases hports : (object.at? ["spec", "ports"]).bind Json.items? with
    | none =>
      have empty : servicePorts object = [] := by rw [servicePorts, hports]; rfl
      exact ⟨empty.trans (by rw [empty]; rfl), by rw [empty]; rfl⟩
    | some ports =>
      have listed : servicePorts object = ports := by rw [servicePorts, hports]; rfl
      obtain ⟨place, hplace, -⟩ := Option.bind_eq_some_iff.mp hports
      have written := at?_modifyAt_append (fun _ => .array (assignPorts used ports).1) object
        ["spec", "ports"] []
      rw [hplace] at written
      have assigned : (object.modifyAt (fun _ => .array (assignPorts used ports).1)
          ["spec", "ports"]).at? ["spec", "ports"] = some (.array (assignPorts used ports).1) :=
        written
      rw [listed]
      refine ⟨?_, rfl⟩
      rw [servicePorts, assigned]
      rfl
  next => exact ⟨rfl, rfl⟩

theorem assignNodePorts_fills_list {used : UInt16} {object : Json}
    (left : used.toNat + missingPorts object ≤ 35536) :
    Fills used (assignNodePorts used object).2 (servicePorts object)
      (servicePorts (assignNodePorts used object).1) := by
  obtain ⟨hports, hused⟩ := assignNodePorts_ports used object
  unfold missingPorts at left
  rw [hports, hused]
  split at left
  next wanted =>
    rw [if_pos wanted, if_pos wanted]
    exact assignPorts_fills_list left
  next unwanted =>
    rw [if_neg unwanted, if_neg unwanted]
    exact fills_same used _

/-! ### Single actions -/

/-- What an action does to the ports: nothing, or it writes those of one object. -/
inductive PortStep (c c' : MemoryCluster) (listed after : Ref → List Json) : Prop
  | kept (stored : storedPorts c' = storedPorts c) (same : after = listed)
      (count : c'.portsHandedOut = c.portsHandedOut)
  | written {target : Ref} {asked given : List Json}
      (fills : Fills c.portsHandedOut c'.portsHandedOut asked given)
      (stored : storedPorts c' = Function.update (storedPorts c) target given)
      (listing : after = Function.update listed target asked)

section
variable {c d : MemoryCluster} {target made : Ref} {manifest : Json}

/-- An update that succeeds hands out the node ports of the object. -/
theorem update_made (answer : c.update target manifest = (.ok made, d)) :
    ∃ stored, PutAt c target
        (assignNodePorts c.portsHandedOut (withStatusOf stored manifest)).1 d ∧
      d.portsHandedOut = (assignNodePorts c.portsHandedOut (withStatusOf stored manifest)).2 := by
  unfold MemoryCluster.update at answer
  rcases record_cases c .update target with
    ⟨report, faults, calls, -, hrecord⟩ | ⟨faults, calls, hrecord⟩
  · rw [hrecord] at answer
    cases answer
  · rw [hrecord] at answer
    dsimp only at answer
    split at answer
    next stored _ =>
      cases answer
      exact ⟨stored, fun other => object?_store _ _ _ _, rfl⟩
    next => cases answer

theorem storedPorts_congr (same : d.objects = c.objects) : storedPorts d = storedPorts c := by
  funext other
  rw [storedPorts, MemoryCluster.object?, same]
  rfl

/-- An object that is put in the place of another one puts its ports in the place of the others. -/
theorem storedPorts_put {object : Json} (put : PutAt c target object d) :
    storedPorts d = Function.update (storedPorts c) target (servicePorts object) := by
  funext other
  rw [storedPorts, put, Function.update_apply]
  split <;> rfl

/-- An object that is stored is handed the node ports that its manifest leaves open. -/
theorem stored_ports {object : Json} (listed : Ref → List Json)
    (left : c.portsHandedOut.toNat + missingPorts manifest ≤ 35536)
    (same : ∀ path, object.at? ("spec" :: path) = manifest.at? ("spec" :: path))
    (put : PutAt c target (assignNodePorts c.portsHandedOut object).1 d)
    (count : d.portsHandedOut = (assignNodePorts c.portsHandedOut object).2) :
    PortStep c d listed (Function.update listed target (servicePorts manifest)) ∧
      d.portsHandedOut.toNat = c.portsHandedOut.toNat + missingPorts manifest := by
  rw [← servicePorts_congr same]
  rw [← missingPorts_congr same] at left ⊢
  refine ⟨.written ?_ (storedPorts_put put) rfl, ?_⟩
  · rw [count]
    exact assignNodePorts_fills_list left
  · rw [count, (assignNodePorts_fills c.portsHandedOut object).2, UInt16.toNat_add,
      UInt16.toNat_ofNat']
    omega

end

/-- A call asks for the node ports that it hands out. -/
theorem handsOut_call (made : GatewayCall) (c : MemoryCluster) :
    ClusterAction.handsOut (.call made) c = portsAsked made (gateway.answer made c).1 := by
  cases made <;> rfl

theorem call_ports (made : GatewayCall) (c : MemoryCluster) (listed : Ref → List Json)
    (left : c.portsHandedOut.toNat + ClusterAction.handsOut (.call made) c ≤ 35536) :
    PortStep c (gateway.answer made c).2 listed (ClusterAction.list (.call made) c listed) ∧
      (gateway.answer made c).2.portsHandedOut.toNat =
        c.portsHandedOut.toNat + ClusterAction.handsOut (.call made) c := by
  have unchanged : ∀ d : MemoryCluster, d.objects = c.objects →
      d.portsHandedOut = c.portsHandedOut →
      PortStep c d listed listed ∧ d.portsHandedOut.toNat = c.portsHandedOut.toNat :=
    fun d hobjects hcount => ⟨.kept (storedPorts_congr hobjects) rfl hcount, congrArg _ hcount⟩
  cases made with
  | create ns kind manifest =>
    simp only [ClusterAction.handsOut, ClusterAction.list] at left ⊢
    rcases answer : c.create ns kind manifest with ⟨report | made, d⟩
    · obtain ⟨hobjects, hcount⟩ := @answer_failed c (.create ns kind manifest) report
        (congrArg Prod.fst answer)
      exact unchanged _ hobjects hcount
    · obtain ⟨name, -, -, put⟩ := create_made answer
      rw [answer] at left
      change PortStep c (c.create ns kind manifest).2 _ _ ∧
        (c.create ns kind manifest).2.portsHandedOut.toNat = _
      rw [answer]
      exact stored_ports listed left (spec_placedIn ns manifest) put (create_ports answer)
  | update target manifest =>
    simp only [ClusterAction.handsOut, ClusterAction.list] at left ⊢
    rcases answer : c.update target manifest with ⟨report | made, d⟩
    · obtain ⟨hobjects, hcount⟩ := @answer_failed c (.update target manifest) report
        (congrArg Prod.fst answer)
      exact unchanged _ hobjects hcount
    · obtain ⟨object, put, count⟩ := update_made answer
      rw [answer] at left
      change PortStep c (c.update target manifest).2 _ _ ∧
        (c.update target manifest).2.portsHandedOut.toNat = _
      rw [answer]
      exact stored_ports listed left (spec_withStatusOf object manifest) put count
  | delete target =>
    have hcount : (c.delete target).2.portsHandedOut = c.portsHandedOut := delete_ports c target
    refine ⟨?_, congrArg _ hcount⟩
    simp only [ClusterAction.list]
    rcases answer : c.delete target with ⟨report | _, d⟩
    · have hobjects : (c.delete target).2.objects = c.objects := by
        rw [answer]
        exact delete_failed answer
      exact .kept (storedPorts_congr hobjects) rfl hcount
    · obtain ⟨absent, others⟩ := delete_settled answer trivial
      change PortStep c (c.delete target).2 _ _
      rw [answer] at hcount ⊢
      refine @PortStep.written c d listed _ target [] [] ?_ ?_ rfl
      · rw [hcount]
        exact fills_same _ []
      · funext other
        rw [Function.update_apply, storedPorts]
        split
        next heq => rw [heq, absent]; rfl
        next hne => rw [others other hne]; rfl
  | get target => exact unchanged _ (get_objects c target) (get_ports c target)
  | listNodes =>
    obtain ⟨calls, hstate⟩ := @answer_lists c .listNodes trivial
    exact unchanged _ (by rw [hstate]) (by rw [hstate])
  | listPods node =>
    obtain ⟨calls, hstate⟩ := @answer_lists c (.listPods node) trivial
    exact unchanged _ (by rw [hstate]) (by rw [hstate])

theorem perform_ports (c : MemoryCluster) (action : ClusterAction) (listed : Ref → List Json)
    (left : c.portsHandedOut.toNat + action.handsOut c ≤ 35536) :
    PortStep c (action.perform c) listed (action.list c listed) ∧
      (action.perform c).portsHandedOut.toNat = c.portsHandedOut.toNat + action.handsOut c := by
  cases action with
  | call made =>
    have answered : gateway.halt? made c = none := by
      rw [halt?_none_iff, ← handsOut_call]
      exact .inr left
    have performed : ClusterAction.perform (.call made) c = (gateway.answer made c).2 := by
      simp only [ClusterAction.perform, answered]
    rw [performed]
    exact call_ports made c listed left
  | failAfter | clearFault | clearFaults => exact ⟨.kept rfl rfl rfl, rfl⟩
  | insert ns kind object =>
    refine ⟨.written (fills_same c.portsHandedOut _) ?_ rfl, rfl⟩
    exact storedPorts_put fun other => object?_put c _ other object
  | setStatus target status =>
    rcases perform_setStatus c target status with h | ⟨members, stored, h⟩ <;> rw [h]
    · exact ⟨.kept rfl rfl rfl, rfl⟩
    · refine ⟨.kept ?_ rfl rfl, rfl⟩
      have ports : servicePorts ((Json.object members).withMember "status" status) =
          storedPorts c target := by
        rw [servicePorts_congr fun path => at?_withMember_of_ne _ status path (by decide),
          storedPorts, stored]
        rfl
      rw [storedPorts_put fun other => object?_put c target other _, ports,
        Function.update_eq_self]

/-! ### Runs -/

/-- What holds of the ports at any time. A node port that a manifest lists is stored as it is, those
that the cluster gave come from the numbers that it has handed out, and no two ports were given the
same. -/
structure PortBook (listed stored : Ref → List Json) (used : UInt16) : Prop where
  pinned : ∀ target i number, nodePortOf? (listed target) i = some number →
    nodePortOf? (stored target) i = some number
  given : ∀ target i number, GivenPort listed stored target i number →
    ∃ k, number = .ofNat k ∧ k < 30000 + used.toNat
  distinct : ∀ target i other j number, GivenPort listed stored target i number →
    GivenPort listed stored other j number → target = other ∧ i = j

theorem portBook_start (stored : Ref → List Json) (used : UInt16) :
    PortBook stored stored used where
  pinned _ _ _ h := h
  given _ _ _ h := by cases h.1.symm.trans h.2
  distinct _ _ _ _ _ h := by cases h.1.symm.trans h.2

section
variable {listed stored : Ref → List Json} {used last : UInt16}

/-- The numbers of the ports that are written are higher than all that were given before. -/
theorem PortBook.written (book : PortBook listed stored used) {asked given : List Json}
    (fills : Fills used last asked given) (target : Ref) :
    PortBook (Function.update listed target asked) (Function.update stored target given) last := by
  -- A given port is one of those written now, or it was given before.
  have cases_at : ∀ other i number,
      GivenPort (Function.update listed target asked) (Function.update stored target given)
        other i number →
      (other = target ∧ nodePortOf? asked i = none ∧ nodePortOf? given i = some number) ∨
        other ≠ target ∧ GivenPort listed stored other i number := by
    intro other i number h
    by_cases own : other = target
    · subst own
      rw [GivenPort, Function.update_self, Function.update_self] at h
      exact .inl ⟨rfl, h⟩
    · rw [GivenPort, Function.update_of_ne own, Function.update_of_ne own] at h
      exact .inr ⟨own, h⟩
  have apart : ∀ {i other j number}, nodePortOf? asked i = none →
      nodePortOf? given i = some number → ¬GivenPort listed stored other j number := by
    intro i other j number absent present earlier
    obtain ⟨k, rfl, low, -⟩ := fills.given i number absent present
    obtain ⟨l, heq, high⟩ := book.given other j _ earlier
    have := ofNat_inj heq
    omega
  refine ⟨fun other i number h => ?_, fun other i number h => ?_, ?_⟩
  · by_cases own : other = target
    · subst own
      rw [Function.update_self] at h ⊢
      exact fills.pinned i number h
    · rw [Function.update_of_ne own] at h ⊢
      exact book.pinned other i number h
  · rcases cases_at other i number h with ⟨-, absent, present⟩ | ⟨-, earlier⟩
    · obtain ⟨k, hk, -, high⟩ := fills.given i number absent present
      exact ⟨k, hk, high⟩
    · obtain ⟨k, hk, high⟩ := book.given other i number earlier
      have := fills.count
      exact ⟨k, hk, by omega⟩
  · intro first i second j number hfirst hsecond
    rcases cases_at first i number hfirst with ⟨rfl, absent, present⟩ | ⟨-, earlier⟩ <;>
      rcases cases_at second j number hsecond with ⟨rfl, missing, written⟩ | ⟨-, before⟩
    · exact ⟨rfl, fills.distinct i j number absent missing present written⟩
    · exact (apart absent present before).elim
    · exact (apart missing written earlier).elim
    · exact book.distinct first i second j number earlier before

/-- A given port has its number to itself, unless a manifest lists it. -/
theorem PortBook.shared_iff (book : PortBook listed stored used) {target : Ref} {i : Nat}
    {number : Json} (given : GivenPort listed stored target i number) :
    (∃ other j, (other, j) ≠ (target, i) ∧ nodePortOf? (stored other) j = some number) ↔
      ∃ other j, nodePortOf? (listed other) j = some number := by
  constructor
  · rintro ⟨other, j, hne, present⟩
    cases own : nodePortOf? (listed other) j with
    | none =>
      obtain ⟨rfl, rfl⟩ := book.distinct target i other j number given ⟨own, present⟩
      exact absurd rfl hne
    | some pin =>
      obtain rfl := Option.some.inj ((book.pinned other j pin own).symm.trans present)
      exact ⟨other, j, own⟩
  · rintro ⟨other, j, pin⟩
    refine ⟨other, j, ?_, book.pinned other j number pin⟩
    rintro heq
    obtain ⟨rfl, rfl⟩ := Prod.mk.inj heq
    cases given.1.symm.trans pin

end

/-- By induction on the actions, each of which leaves the ports or writes those of one object. -/
theorem portBook_run (actions : List ClusterAction) {c : MemoryCluster}
    {listed : Ref → List Json} (left : c.portsHandedOut.toNat + handedOut actions c ≤ 35536)
    (book : PortBook listed (storedPorts c) c.portsHandedOut) :
    PortBook (listedPorts actions c listed) (storedPorts (afterActions actions c))
      (afterActions actions c).portsHandedOut := by
  induction actions generalizing c listed with
  | nil => exact book
  | cons action rest ih =>
    rw [handedOut] at left
    obtain ⟨step, hcount⟩ := perform_ports c action listed (by omega)
    apply ih (by omega)
    cases step with
    | kept stored same count =>
      rw [stored, same, count]
      exact book
    | written fills stored listing =>
      rw [stored, listing]
      exact book.written fills _

/-- After any actions on any cluster that has had a number left for every port, a port that was
given one shares it with another port, of the same object or of another one, exactly if the manifest
of a stored object pins that number. -/
theorem given_port_shared (c : MemoryCluster) (actions : List ClusterAction)
    (left : c.portsHandedOut.toNat + handedOut actions c ≤ 35536) :
    let listed := listedPorts actions c (storedPorts c)
    let stored := storedPorts (afterActions actions c)
    ∀ target i number, GivenPort listed stored target i number →
      ((∃ other j, (other, j) ≠ (target, i) ∧ nodePortOf? (stored other) j = some number) ↔
        ∃ other j, nodePortOf? (listed other) j = some number) :=
  fun _ _ _ given => (portBook_run actions left (portBook_start _ _)).shared_iff given

/-- A service of a name with some ports on the nodes. -/
def nodePortService (name : String) (ports : List Json) : Json :=
  .object [("metadata", .object [("name", .string name)]),
    ("spec", .object [("ports", .array ports), ("type", .string "NodePort")])]

/-- A service that pins a node port, and one that leaves two ports to the cluster. -/
def pinThenOpen (pin : Nat) : List ClusterAction :=
  [.call (.create "lab" .service (nodePortService "ada" [.object [("nodePort", .ofNat pin)]])),
    .call (.create "lab" .service (nodePortService "bob" [.object [], .object []]))]

/-- The first of the two ports is given a number of its own, the second one the number that is
pinned. -/
theorem given_port_shared_second :
    let listed := listedPorts (pinThenOpen 30001) .empty (storedPorts .empty)
    let stored := storedPorts (afterActions (pinThenOpen 30001) .empty)
    MemoryCluster.empty.portsHandedOut.toNat + handedOut (pinThenOpen 30001) .empty ≤ 35536 ∧
      GivenPort listed stored ⟨.service, "lab", "bob"⟩ 1 (.ofNat 30001) ∧
      ∃ other j, (other, j) ≠ (⟨.service, "lab", "bob"⟩, 1) ∧
        nodePortOf? (stored other) j = some (.ofNat 30001) := by
  intro listed stored
  have left : MemoryCluster.empty.portsHandedOut.toNat +
      handedOut (pinThenOpen 30001) .empty ≤ 35536 := by decide
  have given : GivenPort listed stored ⟨.service, "lab", "bob"⟩ 1 (.ofNat 30001) := ⟨rfl, rfl⟩
  exact ⟨left, given, (given_port_shared .empty (pinThenOpen 30001) left _ _ _ given).mpr
    ⟨⟨.service, "lab", "ada"⟩, 0, rfl⟩⟩

/-- The first number in line is given although it is pinned. -/
theorem pinned_port_given :
    let listed := listedPorts (pinThenOpen 30000) .empty (storedPorts .empty)
    let stored := storedPorts (afterActions (pinThenOpen 30000) .empty)
    GivenPort listed stored ⟨.service, "lab", "bob"⟩ 0 (.ofNat 30000) ∧
      nodePortOf? (stored ⟨.service, "lab", "ada"⟩) 0 = some (.ofNat 30000) :=
  ⟨⟨rfl, rfl⟩, rfl⟩

end ClusterProvisioning.Proofs
