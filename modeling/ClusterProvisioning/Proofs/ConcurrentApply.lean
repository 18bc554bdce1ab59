import ClusterProvisioning.Proofs.Interleaving
import ClusterProvisioning.Proofs.LiveObjects
import ClusterProvisioning.Proofs.PortOverflow
import Mathlib.Algebra.GroupWithZero.Nat
import Mathlib.Algebra.Order.BigOperators.Group.List
import Mathlib.Algebra.Order.Group.Nat

/-!
# Plans applied at the same time

Several runs apply plans to one cluster in memory without faults, with their calls interleaved in
any way. While no two units share an identity, a turn of one run disturbs no other: a run relies on
the objects under the names of its own units, and those no other run touches. Each run therefore
creates its whole plan, and what the runs share, the count of node ports, only grows.
-/

namespace ClusterProvisioning.Proofs
open Program MemoryCluster

/-- The manifest of a unit as it is stored, but for node ports. -/
def placedManifest (u : PlanUnit) : Json := Manifest.placedIn u.ns u.manifest

/-- The node ports that a cluster filled in for a unit. -/
def assignedPorts (c : MemoryCluster) (u : PlanUnit) : List Json :=
  ((c.object? u.ref).map (filledPorts (placedManifest u))).getD []

/-- How many node ports a plan leaves to the cluster. -/
def portsWanted (us : List PlanUnit) : Nat :=
  (us.map fun u => missingPorts (placedManifest u)).sum

/-- A unit that was created, and its object. -/
abbrev Entry := PlanUnit × Json

/-- What a turn of a run does to the cluster, and to the units created so far by all runs. -/
inductive TurnOf (us : List PlanUnit) (created : List Entry) (c : MemoryCluster) :
    List Entry → MemoryCluster → Prop
  | idle : TurnOf us created c created c
  | cleared {u : PlanUnit} {d : MemoryCluster} (unit : u ∈ us)
      (fresh : ∀ e ∈ created, e.1.ref ≠ u.ref) (unarmed : Unarmed d)
      (others : ∀ other, other ≠ u.ref → d.object? other = c.object? other)
      (ports : d.portsHandedOut = c.portsHandedOut) : TurnOf us created c created d
  | made {u : PlanUnit} {object : Json} {d : MemoryCluster} (unit : u ∈ us)
      (fresh : ∀ e ∈ created, e.1.ref ≠ u.ref) (unarmed : Unarmed d)
      (stored : PutAt c u.ref object d)
      (assigned : assignNodePorts c.portsHandedOut (placedManifest u) =
        (object, d.portsHandedOut)) :
      TurnOf us created c (created ++ [(u, object)]) d

/-- How far a run is: the units of its plan that it has made are among those created, and no object
of those that are left is. -/
structure Progress (us : List PlanUnit) (created : List Entry) (made rest : List PlanUnit) :
    Prop where
  plan : us = made ++ rest
  present : ∀ u ∈ made, u ∈ created.map Prod.fst
  fresh : ∀ u ∈ rest, ∀ e ∈ created, e.1.ref ≠ u.ref

/-- A run that applies a plan is under way: what is left of it, and how many turns it needs. -/
inductive Underway (us : List PlanUnit) (created : List Entry) (c : MemoryCluster) :
    Program ApplyResult → Nat → Prop
  | next {made rest : List PlanUnit} (progress : Progress us created made rest) :
      Underway us created c (Apply.createAll .never (2 * made.length) made rest)
        (3 * rest.length)
  | cleared {made rest : List PlanUnit} {u : PlanUnit}
      {next : (GatewayCall.create u.ref.ns u.ref.kind u.manifest).Result → Program ApplyResult}
      (progress : Progress us created made (u :: rest)) (absent : c.object? u.ref = none)
      (continues : ∀ target, next (.ok target) = .audit ⟨.create, target⟩
        (Apply.createAll .never (2 * made.length + 2) (made ++ [u]) rest)) :
      Underway us created c (.call (.create u.ref.ns u.ref.kind u.manifest) next)
        (3 * rest.length + 2)
  | noted {made rest : List PlanUnit} {event : AuditEvent}
      (progress : Progress us created made rest) :
      Underway us created c
        (.audit event (Apply.createAll .never (2 * made.length) made rest))
        (3 * rest.length + 1)

theorem Progress.head_mem {us : List PlanUnit} {created : List Entry} {made rest : List PlanUnit}
    {u : PlanUnit} (progress : Progress us created made (u :: rest)) : u ∈ us := by
  rw [progress.plan]
  exact List.mem_append_right made List.mem_cons_self

theorem createAll_cons (finished : Nat) (made rest : List PlanUnit) (u : PlanUnit) :
    ∃ next, Apply.createAll .never finished made (u :: rest) = .call (.delete u.ref) next ∧
      ∀ removed, Settles removed →
        ∃ next', next removed = .call (.create u.ref.ns u.ref.kind u.manifest) next' ∧
          ∀ target, next' (.ok target) = .audit ⟨.create, target⟩
            (Apply.createAll .never (finished + 2) (made ++ [u]) rest) := by
  refine ⟨_, rfl, ?_⟩
  intro removed settled
  cases removed with
  | ok _ => exact ⟨_, rfl, fun target => rfl⟩
  | error report =>
    have hfound : report.cause.isNotFound = true := settled
    simp only [Program.bind, hfound, if_true]
    exact ⟨_, rfl, fun target => rfl⟩

/-! ### Node ports of a plan -/

theorem portsWanted_cons (u : PlanUnit) (us : List PlanUnit) :
    portsWanted (u :: us) = missingPorts (placedManifest u) + portsWanted us := by
  simp only [portsWanted, List.map_cons, List.sum_cons]

theorem portsWanted_append (us vs : List PlanUnit) :
    portsWanted (us ++ vs) = portsWanted us + portsWanted vs := by
  simp only [portsWanted, List.map_append, List.sum_append]

/-- Some of the units of a plan want no more node ports than all of them. -/
theorem portsWanted_le {us vs : List PlanUnit} (among : us.Subperm vs) :
    portsWanted us ≤ portsWanted vs := by
  obtain ⟨ws, perm, sublist⟩ := among
  have same : portsWanted ws = portsWanted us :=
    (perm.map fun u => missingPorts (placedManifest u)).sum_eq
  have bounded : portsWanted ws ≤ portsWanted vs :=
    (sublist.map fun u => missingPorts (placedManifest u)).sum_le_sum fun _ _ => Nat.zero_le _
  exact same ▸ bounded

/-- The manifest of a unit leaves as many node ports open as it does where it is placed. -/
theorem missingPorts_placedManifest (u : PlanUnit) :
    missingPorts (placedManifest u) = missingPorts u.manifest :=
  missingPorts_congr (spec_placedIn u.ns u.manifest)

/-! ### One turn -/

theorem create_stores {c : MemoryCluster} {ns name : String} {kind : Kind} {manifest : Json}
    (unarmed : Unarmed c) (named : Manifest.name? manifest = some name)
    (absent : c.object? ⟨kind, ns, name⟩ = none) :
    ∃ object d, c.create ns kind manifest = (.ok ⟨kind, ns, name⟩, d) ∧ Unarmed d ∧
      PutAt c ⟨kind, ns, name⟩ object d ∧
      assignNodePorts c.portsHandedOut (Manifest.placedIn ns manifest) =
        (object, d.portsHandedOut) := by
  rcases answer : c.create ns kind manifest with ⟨made, d⟩
  obtain ⟨rfl, hd⟩ := create_unarmed unarmed named absent answer
  rcases create_cases c ns kind named with ⟨report, herror, -⟩ | ⟨-, -, stored⟩
  · rw [answer] at herror
    cases herror
  · rw [answer] at stored
    exact ⟨_, d, rfl, hd, stored, Prod.ext rfl (create_ports answer).symm⟩

/-- Creating the next unit of a run moves it from those that are left to those made. -/
theorem progress_made {us : List PlanUnit} {created : List Entry} {made rest : List PlanUnit}
    {u : PlanUnit} {object : Json} (distinct : (us.map PlanUnit.ref).Nodup)
    (progress : Progress us created made (u :: rest)) :
    Progress us (created ++ [(u, object)]) (made ++ [u]) rest := by
  have plan : us = (made ++ [u]) ++ rest := by
    rw [progress.plan, List.append_assoc, List.singleton_append]
  refine ⟨plan, ?_, ?_⟩
  · intro v hv
    rw [List.map_append, List.mem_append]
    rcases List.mem_append.mp hv with hv | hv
    · exact .inl (progress.present v hv)
    · exact .inr hv
  · intro v hv e he
    rcases List.mem_append.mp he with he | he
    · exact progress.fresh v (List.mem_cons_of_mem u hv) e he
    · obtain rfl := List.mem_singleton.mp he
      have hu : u ∈ made ++ [u] := List.mem_append_right made List.mem_cons_self
      rw [plan] at distinct
      exact refs_apart distinct u hu v hv

/-- A turn of a run does one of the three things, and leaves the run under way with one turn less to
go. -/
theorem underway_turn {us : List PlanUnit} {created : List Entry} {c : MemoryCluster}
    {p : Program ApplyResult} {n : Nat} (unarmed : Unarmed c)
    (named : ∀ u ∈ us, Manifest.name? u.manifest = some u.name)
    (distinct : (us.map PlanUnit.ref).Nodup) (h : Underway us created c p n) :
    ∃ created', TurnOf us created c created' (stepOn gateway p c).2 ∧
      Underway us created' (stepOn gateway p c).2 (stepOn gateway p c).1 (n - 1) := by
  cases h with
  | @next made rest progress =>
    cases rest with
    | nil => exact ⟨created, .idle, .next progress⟩
    | cons u rest =>
      obtain ⟨next, hrun, hnext⟩ := createAll_cons (2 * made.length) made rest u
      rcases hdelete : c.delete u.ref with ⟨removed, d⟩
      obtain ⟨settled, hd⟩ := delete_unarmed unarmed hdelete
      obtain ⟨gone, others⟩ := delete_settled hdelete settled
      obtain ⟨next', hcreate, continues⟩ := hnext removed settled
      have hstep : stepOn gateway (Apply.createAll .never (2 * made.length) made (u :: rest)) c =
          (.call (.create u.ref.ns u.ref.kind u.manifest) next', d) := by
        rw [hrun, ← hcreate]
        change (next (c.delete u.ref).1, (c.delete u.ref).2) = _
        rw [hdelete]
      have hcount : 3 * (u :: rest).length - 1 = 3 * rest.length + 2 := by
        rw [List.length_cons]
        omega
      have fresh := progress.fresh u List.mem_cons_self
      have hports := delete_ports c u.ref
      rw [hdelete] at hports
      rw [hstep, hcount]
      refine ⟨created, ?_, .cleared progress gone continues⟩
      exact .cleared progress.head_mem fresh hd others hports
  | @cleared made rest u next progress absent continues =>
    have unit := progress.head_mem
    have fresh := progress.fresh u List.mem_cons_self
    obtain ⟨object, d, hcreate, hd, stored, assigned⟩ :=
      @create_stores c u.ns u.name u.kind u.manifest unarmed (named u unit) absent
    have hstep : stepOn gateway (.call (.create u.ref.ns u.ref.kind u.manifest) next) c =
        (.audit ⟨.create, u.ref⟩
          (Apply.createAll .never (2 * (made ++ [u]).length) (made ++ [u]) rest), d) := by
      have hlength : 2 * (made ++ [u]).length = 2 * made.length + 2 := by
        rw [List.length_append, List.length_singleton]
        omega
      rw [hlength, ← continues]
      change (next (c.create u.ns u.kind u.manifest).1, (c.create u.ns u.kind u.manifest).2) = _
      rw [hcreate]
      rfl
    rw [hstep]
    exact ⟨_, .made unit fresh hd stored assigned, .noted (progress_made distinct progress)⟩
  | noted progress => exact ⟨created, .idle, .next progress⟩

/-- A turn forgets no unit, and is about no unit but those of its own plan. -/
theorem turnOf_apart {us : List PlanUnit} {created created' : List Entry} {c d : MemoryCluster}
    (turn : TurnOf us created c created' d) :
    created ⊆ created' ∧ ∀ target, (∀ u ∈ us, u.ref ≠ target) →
      d.object? target = c.object? target ∧
        ((∀ e ∈ created, e.1.ref ≠ target) → ∀ e ∈ created', e.1.ref ≠ target) := by
  cases turn with
  | idle => exact ⟨fun e he => he, fun target _ => ⟨rfl, fun fresh => fresh⟩⟩
  | @cleared u _ unit fresh unarmed others ports =>
    refine ⟨fun e he => he, fun target apart => ⟨?_, fun fresh => fresh⟩⟩
    exact others target (apart u unit).symm
  | @made u object _ unit fresh unarmed stored assigned =>
    refine ⟨List.subset_append_left created _, fun target apart => ⟨?_, ?_⟩⟩
    · exact stored.other (apart u unit).symm
    · intro fresh e he
      rcases List.mem_append.mp he with he | he
      · exact fresh e he
      · obtain rfl := List.mem_singleton.mp he
        exact apart u unit

/-- A turn of another run leaves a run as far as it was. -/
theorem underway_stable {us vs : List PlanUnit} {created created' : List Entry}
    {c d : MemoryCluster} {p : Program ApplyResult} {n : Nat}
    (turn : TurnOf us created c created' d) (apart : ∀ u ∈ us, ∀ v ∈ vs, u.ref ≠ v.ref)
    (h : Underway vs created c p n) : Underway vs created' d p n := by
  obtain ⟨kept, others⟩ := turnOf_apart turn
  have other := fun v hv => others (PlanUnit.ref v) fun u hu => apart u hu v hv
  have stable : ∀ {made rest}, Progress vs created made rest → Progress vs created' made rest := by
    intro made rest progress
    refine ⟨progress.plan, ?_, ?_⟩
    · exact fun v hv => List.map_subset Prod.fst kept (progress.present v hv)
    · intro v hv
      have hmem : v ∈ vs := progress.plan ▸ List.mem_append_right made hv
      exact (other v hmem).2 (progress.fresh v hv)
  cases h with
  | next progress => exact .next (stable progress)
  | @cleared made rest u next progress absent continues =>
    have absent' : d.object? u.ref = none := by
      rw [(other u progress.head_mem).1]
      exact absent
    exact .cleared (stable progress) absent' continues
  | noted progress => exact .noted (stable progress)

/-! ### What all runs made -/

/-- The units that all runs have created so far, each with its object, account for what the cluster
has stored since the start: these objects are there, all others are as they were, and the node ports
in them are those handed out since. -/
structure Ledger (base : MemoryCluster) (all : List PlanUnit) (created : List Entry)
    (c : MemoryCluster) : Prop where
  unarmed : Unarmed c
  distinct : (created.map fun e => e.1.ref).Nodup
  planned : ∀ e ∈ created, e.1 ∈ all
  stored : ∀ e ∈ created,
    StoredAs (placedManifest e.1) e.2 ∧ c.object? e.1.ref = some e.2
  others : ∀ target ∉ all.map PlanUnit.ref, c.object? target = base.object? target
  ports : c.portsHandedOut = base.portsHandedOut + .ofNat (portsWanted (created.map Prod.fst)) ∧
    created.flatMap (fun e => filledPorts (placedManifest e.1) e.2) =
      nextPorts base.portsHandedOut (portsWanted (created.map Prod.fst))

theorem ledger_turn {base c d : MemoryCluster} {all us : List PlanUnit}
    {created created' : List Entry} (ledger : Ledger base all created c) (subset : us ⊆ all)
    (turn : TurnOf us created c created' d) : Ledger base all created' d := by
  have others' : ∀ target ∉ all.map PlanUnit.ref, d.object? target = base.object? target := by
    intro target outside
    have apart : ∀ u ∈ us, u.ref ≠ target := by
      rintro u hu rfl
      exact outside (List.mem_map_of_mem (subset hu))
    rw [((turnOf_apart turn).2 target apart).1]
    exact ledger.others target outside
  cases turn with
  | idle => exact ledger
  | @cleared u _ unit fresh unarmed others ports =>
    refine ⟨unarmed, ledger.distinct, ledger.planned, ?_, others', ?_⟩
    · intro e he
      rw [others e.1.ref (fresh e he)]
      exact ledger.stored e he
    · rw [ports]
      exact ledger.ports
  | @made u object _ unit fresh unarmed stored assigned =>
    refine ⟨unarmed, ?_, ?_, ?_, others', ?_⟩
    · rw [List.map_append, List.nodup_append]
      refine ⟨ledger.distinct, List.nodup_cons.mpr ⟨List.not_mem_nil, List.nodup_nil⟩, ?_⟩
      intro a ha b hb
      obtain ⟨e, he, rfl⟩ := List.mem_map.mp ha
      obtain rfl := List.mem_singleton.mp hb
      exact fresh e he
    · intro e he
      rcases List.mem_append.mp he with he | he
      · exact ledger.planned e he
      · obtain rfl := List.mem_singleton.mp he
        exact subset unit
    · intro e he
      rcases List.mem_append.mp he with he | he
      · rw [stored.other (fresh e he)]
        exact ledger.stored e he
      · obtain rfl := List.mem_singleton.mp he
        exact ⟨⟨c.portsHandedOut, by rw [assigned]⟩, stored.self⟩
    · obtain ⟨hused, hports⟩ := ledger.ports
      obtain ⟨hfilled, hm⟩ := assignNodePorts_fills c.portsHandedOut (placedManifest u)
      rw [assigned] at hfilled hm
      dsimp only at hfilled hm
      have wanted : portsWanted ((created ++ [(u, object)]).map Prod.fst) =
          portsWanted (created.map Prod.fst) + missingPorts (placedManifest u) := by
        rw [List.map_append, portsWanted_append]
        rfl
      rw [wanted]
      constructor
      · rw [hm, hused, UInt16.ofNat_add, UInt16.add_assoc]
      · rw [List.flatMap_append, hports, List.flatMap_singleton, hfilled, hused, nextPorts_add]

section
variable {base c : MemoryCluster} {all : List PlanUnit} {created : List Entry}

theorem Ledger.nodup (ledger : Ledger base all created c) : (created.map Prod.fst).Nodup := by
  apply List.Nodup.of_map PlanUnit.ref
  rw [List.map_map]
  exact ledger.distinct

theorem Ledger.subset (ledger : Ledger base all created c) : created.map Prod.fst ⊆ all := by
  intro u hu
  obtain ⟨e, he, rfl⟩ := List.mem_map.mp hu
  exact ledger.planned e he

/-- While there are node ports for all units, there are some for a unit that is not created yet. -/
theorem ledger_left (ledger : Ledger base all created c) {u : PlanUnit} (planned : u ∈ all)
    (fresh : ∀ e ∈ created, e.1.ref ≠ u.ref)
    (left : PortsSuffice base.portsHandedOut (portsWanted all)) :
    PortsSuffice c.portsHandedOut (missingPorts u.manifest) := by
  have absent : u ∉ created.map Prod.fst := by
    intro hu
    obtain ⟨e, he, rfl⟩ := List.mem_map.mp hu
    exact fresh e he rfl
  have among : (u :: created.map Prod.fst).Subperm all :=
    List.subperm_of_subset (List.nodup_cons.mpr ⟨absent, ledger.nodup⟩)
      (List.cons_subset.mpr ⟨planned, ledger.subset⟩)
  have bounded := portsWanted_le among
  rw [portsWanted_cons, missingPorts_placedManifest, Nat.add_comm] at bounded
  have enough := ((portsSuffice_add _ _ _).mp (portsSuffice_mono left bounded)).2
  rwa [← ledger.ports.1] at enough

end

/-- While there are node ports for all units, no run is about to stop. -/
theorem underway_unhalted {base c : MemoryCluster} {all us : List PlanUnit}
    {created : List Entry} {p : Program ApplyResult} {n : Nat}
    (ledger : Ledger base all created c) (subset : us ⊆ all)
    (left : PortsSuffice base.portsHandedOut (portsWanted all))
    (h : Underway us created c p n) : haltOn gateway p c = none := by
  cases h with
  | @next made rest progress =>
    cases rest with
    | nil => rfl
    | cons u rest =>
      obtain ⟨next, hrun, -⟩ := createAll_cons (2 * made.length) made rest u
      rw [hrun]
      rfl
  | @cleared made rest u next progress absent continues =>
    have enough := ledger_left ledger (subset progress.head_mem)
      (progress.fresh u List.mem_cons_self) left
    exact (halt?_none_iff _ c).mpr (portsSuffice_mono enough (portsAsked_create_le ..))
  | noted progress => rfl

/-! ### All turns -/

/-- All runs are under way, with some turns to go each. -/
structure Joint (base : MemoryCluster) (plans : List (List PlanUnit)) (owed : Nat → Nat)
    (runs : List (Program ApplyResult)) (created : List Entry) (c : MemoryCluster) : Prop where
  ledger : Ledger base plans.flatten created c
  underway : ∀ i us p, plans[i]? = some us → runs[i]? = some p →
    Underway us created c p (owed i)

theorem joint_start {c : MemoryCluster} (plans : List (List PlanUnit)) (unarmed : Unarmed c) :
    Joint c plans (fun i => 3 * (plans[i]?.getD []).length)
      (plans.map fun us => Apply.units us .never) [] c where
  ledger := by
    have used : c.portsHandedOut = c.portsHandedOut + .ofNat 0 :=
      (UInt16.add_zero c.portsHandedOut).symm
    refine ⟨unarmed, List.nodup_nil, ?_, ?_, fun target _ => rfl, used, rfl⟩
    · exact fun e he => absurd he List.not_mem_nil
    · exact fun e he => absurd he List.not_mem_nil
  underway := by
    intro i us p hus hp
    rw [List.getElem?_map, hus] at hp
    cases hp
    rw [hus]
    refine .next ⟨(List.nil_append us).symm, ?_, ?_⟩
    · exact fun u hu => absurd hu List.not_mem_nil
    · exact fun u hu e he => absurd he List.not_mem_nil

section
variable {base : MemoryCluster} {plans : List (List PlanUnit)}
  (named : ∀ us ∈ plans, ∀ u ∈ us, Manifest.name? u.manifest = some u.name)
  (distinct : (plans.flatten.map PlanUnit.ref).Nodup)

include distinct in
theorem plan_distinct {us : List PlanUnit} (hus : us ∈ plans) : (us.map PlanUnit.ref).Nodup :=
  ((List.sublist_flatten_of_mem hus).map PlanUnit.ref).nodup distinct

include distinct in
theorem plans_apart {i k : Nat} {us vs : List PlanUnit} (hne : i ≠ k) (hi : plans[i]? = some us)
    (hk : plans[k]? = some vs) : ∀ u ∈ us, ∀ v ∈ vs, u.ref ≠ v.ref := by
  have later : ∀ {i k : Nat} {us vs : List PlanUnit}, i < k → plans[i]? = some us →
      plans[k]? = some vs → ∀ u ∈ us, ∀ v ∈ vs, u.ref ≠ v.ref := by
    intro i k us vs hlt hi hk u hu v hv heq
    obtain ⟨hin, rfl⟩ := List.getElem?_eq_some_iff.mp hi
    obtain ⟨hkn, rfl⟩ := List.getElem?_eq_some_iff.mp hk
    rw [List.map_flatten, List.nodup_flatten, List.pairwise_map] at distinct
    have hdisjoint := List.pairwise_iff_getElem.mp distinct.2 i k hin hkn hlt
    exact hdisjoint (List.mem_map_of_mem hu) (heq ▸ List.mem_map_of_mem hv)
  rcases Nat.lt_or_gt_of_ne hne with h | h
  · exact later h hi hk
  · intro u hu v hv heq
    exact later h hk hi v hv u hu heq.symm

include named distinct in
theorem joint_turn {owed : Nat → Nat} {runs : List (Program ApplyResult)} {created : List Entry}
    {c : MemoryCluster} {i : Nat} {p : Program ApplyResult}
    (joint : Joint base plans owed runs created c) (size : runs.length = plans.length)
    (turn : runs[i]? = some p) :
    ∃ created', Joint base plans (fun k => owed k - if i = k then 1 else 0)
      (runs.set i (stepOn gateway p c).1) created' (stepOn gateway p c).2 := by
  obtain ⟨hlt, -⟩ := List.getElem?_eq_some_iff.mp turn
  have hplan : i < plans.length := size ▸ hlt
  have plan : plans[i]? = some plans[i] := List.getElem?_eq_getElem hplan
  have hus := List.mem_of_getElem? plan
  have subset := (List.sublist_flatten_of_mem hus).subset
  obtain ⟨created', hturn, hunderway⟩ :=
    underway_turn joint.ledger.unarmed (named _ hus) (plan_distinct distinct hus)
      (joint.underway i _ p plan turn)
  refine ⟨created', ledger_turn joint.ledger subset hturn, ?_⟩
  intro k vs q hvs hq
  rw [List.getElem?_set] at hq
  by_cases hik : i = k
  · subst hik
    rw [if_pos rfl, if_pos hlt] at hq
    cases hq
    cases plan.symm.trans hvs
    rw [if_pos rfl]
    exact hunderway
  · rw [if_neg hik] at hq ⊢
    exact underway_stable hturn (plans_apart distinct hik plan hvs) (joint.underway k vs q hvs hq)

include named distinct in
theorem joint_turns {owed : Nat → Nat} {runs : List (Program ApplyResult)} {created : List Entry}
    {c : MemoryCluster} (turns : List Nat) (joint : Joint base plans owed runs created c)
    (size : runs.length = plans.length) :
    ∃ created', Joint base plans (fun k => owed k - turns.count k)
      (interleave gateway turns runs c).1 created' (interleave gateway turns runs c).2 := by
  -- On the turns; who is owed how many is left open, since each turn takes one from its run.
  induction turns generalizing owed runs created c with
  | nil => exact ⟨created, joint⟩
  | cons i turns ih =>
    have howed : (fun k => owed k - (i :: turns).count k) =
        fun k => (owed k - if i = k then 1 else 0) - turns.count k := by
      funext k
      rw [List.count_cons]
      by_cases hik : i = k
      · simp only [hik, beq_self_eq_true, if_true]
        omega
      · simp [hik]
    rw [howed]
    cases turn : runs[i]? with
    | none =>
      -- No run has this position, so none is owed the turn.
      have joint' : Joint base plans (fun k => owed k - if i = k then 1 else 0) runs created c := by
        refine ⟨joint.ledger, ?_⟩
        intro k us p hus hp
        have hik : i ≠ k := by
          rintro rfl
          cases turn.symm.trans hp
        rw [if_neg hik]
        exact joint.underway k us p hus hp
      simp only [interleave, turn]
      exact ih joint' size
    | some p =>
      obtain ⟨created', joint'⟩ := joint_turn named distinct joint size turn
      simp only [interleave, turn]
      exact ih joint' (by rw [List.length_set, size])

/-! ### The end -/

/-- A run that has no turn to go, or that has ended, has made its whole plan. -/
theorem underway_ended {us : List PlanUnit} {created : List Entry} {c : MemoryCluster}
    {p : Program ApplyResult} {n : Nat} (h : Underway us created c p n)
    (ended : n = 0 ∨ ∃ result, p = .done result) :
    p = .done ⟨us.map PlanUnit.ref, none, none⟩ ∧ ∀ u ∈ us, u ∈ created.map Prod.fst := by
  cases h with
  | @next made rest progress =>
    cases rest with
    | nil =>
      obtain rfl : us = made := progress.plan.trans (List.append_nil made)
      exact ⟨rfl, progress.present⟩
    | cons u rest =>
      obtain ⟨next, hrun, -⟩ := createAll_cons (2 * made.length) made rest u
      rcases ended with h | ⟨result, h⟩
      · rw [List.length_cons] at h
        omega
      · rw [hrun] at h
        cases h
  | cleared => rcases ended with h | ⟨result, h⟩ <;> cases h
  | noted => rcases ended with h | ⟨result, h⟩ <;> cases h

/-- What applying plans leaves on a cluster: each unit is stored as its manifest, every other object
is as it was, and while there are node ports left, those filled in are all different. -/
structure Applied (base : MemoryCluster) (plans : List (List PlanUnit)) (c : MemoryCluster) :
    Prop where
  stored : ∀ us ∈ plans, ∀ u ∈ us, ∃ object, StoredAs (placedManifest u) object ∧
    c.object? u.ref = some object
  others : ∀ target, (∀ us ∈ plans, ∀ u ∈ us, u.ref ≠ target) →
    c.object? target = base.object? target
  ports : base.portsHandedOut.toNat + (plans.flatten.flatMap (assignedPorts c)).length ≤ 35536 →
    (plans.flatten.flatMap (assignedPorts c)).Nodup

include distinct in
/-- At the end the units created are those of all plans. -/
theorem created_perm {created : List Entry} {c : MemoryCluster}
    (ledger : Ledger base plans.flatten created c)
    (all : ∀ us ∈ plans, ∀ u ∈ us, u ∈ created.map Prod.fst) :
    (created.map Prod.fst).Perm plans.flatten := by
  rw [List.perm_ext_iff_of_nodup ledger.nodup (List.Nodup.of_map PlanUnit.ref distinct)]
  intro u
  constructor
  · exact fun hu => ledger.subset hu
  · intro hu
    obtain ⟨us, hus, hu⟩ := List.mem_flatten.mp hu
    exact all us hus u hu

include distinct in
theorem applied_of_ledger {created : List Entry} {c : MemoryCluster}
    (ledger : Ledger base plans.flatten created c)
    (all : ∀ us ∈ plans, ∀ u ∈ us, u ∈ created.map Prod.fst) : Applied base plans c where
  stored := by
    intro us hus u hu
    obtain ⟨e, he, rfl⟩ := List.mem_map.mp (all us hus u hu)
    exact ⟨e.2, ledger.stored e he⟩
  others := by
    intro target apart
    apply ledger.others
    intro hmem
    obtain ⟨u, hu, rfl⟩ := List.mem_map.mp hmem
    obtain ⟨us, hus, hu⟩ := List.mem_flatten.mp hu
    exact apart us hus u hu rfl
  ports := by
    intro left
    have hassigned : (created.map Prod.fst).flatMap (assignedPorts c) =
        nextPorts base.portsHandedOut (portsWanted (created.map Prod.fst)) := by
      rw [← ledger.ports.2, List.flatMap_map]
      apply List.flatMap_congr
      intro e he
      rw [assignedPorts, (ledger.stored e he).2]
      rfl
    have hflat := (created_perm distinct ledger all).flatMap_right (assignedPorts c)
    rw [hassigned] at hflat
    rw [← hflat.length_eq, length_nextPorts] at left
    exact hflat.nodup (nextPorts_nodup left)

include named distinct in
/-- After any turns there is one ledger for all runs, and each is under way. -/
theorem interleaved_underway (turns : List Nat) (unarmed : Unarmed base) :
    let (runs, c) := interleave gateway turns (plans.map fun us => Apply.units us .never) base
    ∃ created, Ledger base plans.flatten created c ∧
      ∀ (i : Nat) (us : List PlanUnit), plans[i]? = some us → ∃ p, runs[i]? = some p ∧
        Underway us created c p (3 * us.length - turns.count i) := by
  obtain ⟨created, joint⟩ :=
    joint_turns named distinct turns (joint_start plans unarmed) (List.length_map _)
  have size := length_interleave gateway turns (plans.map fun us => Apply.units us .never) base
  rw [List.length_map] at size
  refine ⟨created, joint.ledger, ?_⟩
  intro i us hus
  obtain ⟨hi, -⟩ := List.getElem?_eq_some_iff.mp hus
  rw [← size] at hi
  have hp := List.getElem?_eq_getElem hi
  have hunderway := joint.underway i us _ hus hp
  rw [hus] at hunderway
  exact ⟨_, hp, hunderway⟩

end

/-- Plans of units with identities of their own are applied to one cluster without faults, their
calls interleaved in any way. A run has ended when it has had three turns for each of its units, and
a run that has ended has created its whole plan; when all have, the plans are what changed. While
there are node ports for all plans, no run ever stops. -/
theorem apply_interleaved (c : MemoryCluster) (plans : List (List PlanUnit)) (turns : List Nat)
    (unarmed : Unarmed c)
    (named : ∀ us ∈ plans, ∀ u ∈ us, Manifest.name? u.manifest = some u.name)
    (distinct : (plans.flatten.map PlanUnit.ref).Nodup) :
    let (runs, c') := interleave gateway turns (plans.map fun us => Apply.units us .never) c
    (∀ (i : Nat) (us : List PlanUnit), plans[i]? = some us → 3 * us.length ≤ turns.count i →
        ∃ result, runs[i]? = some (.done result)) ∧
      (∀ (i : Nat) (us : List PlanUnit) (result : ApplyResult), plans[i]? = some us →
        runs[i]? = some (.done result) → result = ⟨us.map PlanUnit.ref, none, none⟩) ∧
      ((∀ p ∈ runs, ∃ result, p = .done result) → Applied c plans c') ∧
      (PortsSuffice c.portsHandedOut (portsWanted plans.flatten) →
        ∀ p ∈ runs, haltOn gateway p c' = none) := by
  have size := length_interleave gateway turns (plans.map fun us => Apply.units us .never) c
  have runs_underway := @interleaved_underway c plans named distinct turns unarmed
  rcases h : interleave gateway turns (plans.map fun us => Apply.units us .never) c with ⟨runs, c'⟩
  rw [h] at runs_underway
  rw [h, List.length_map] at size
  obtain ⟨created, ledger, run⟩ := runs_underway
  refine ⟨?_, ?_, ?_, ?_⟩
  · intro i us hus enough
    obtain ⟨p, hp, hunderway⟩ := run i us hus
    obtain ⟨rfl, -⟩ := underway_ended hunderway (.inl (by omega))
    exact ⟨_, hp⟩
  · intro i us result hus hdone
    obtain ⟨p, hp, hunderway⟩ := run i us hus
    obtain rfl := Option.some.inj (hp.symm.trans hdone)
    obtain ⟨heq, -⟩ := underway_ended hunderway (.inr ⟨result, rfl⟩)
    exact Program.done.inj heq
  · intro ended
    apply applied_of_ledger distinct ledger
    intro us hus
    obtain ⟨i, hi, rfl⟩ := List.getElem_of_mem hus
    obtain ⟨p, hp, hunderway⟩ := run i _ (List.getElem?_eq_getElem hi)
    exact (underway_ended hunderway (.inr (ended p (List.mem_of_getElem? hp)))).2
  · intro left p hp
    obtain ⟨i, hi, rfl⟩ := List.getElem_of_mem hp
    have plan := List.getElem?_eq_getElem (size ▸ hi)
    obtain ⟨q, hq, hunderway⟩ := run i _ plan
    obtain rfl := Option.some.inj (hq.symm.trans (List.getElem?_eq_getElem hi))
    have subset := (List.sublist_flatten_of_mem (List.mem_of_getElem? plan)).subset
    exact underway_unhalted ledger subset left hunderway

/-- A service that asks for one node port. -/
def nodePortUnit (name : String) : PlanUnit :=
  .of .service "ns" name (Plan.manifestOf .service name "ns" []
    (.ofMembers [("type", .string "NodePort"), ("ports", .array [.object [("port", .ofNat 80)]])]))

/-- Two plans of one service each. -/
def twoServices : List (List PlanUnit) := [[nodePortUnit "one"], [nodePortUnit "two"]]

/-- Two services are created at the same time, the second first. -/
theorem apply_interleaved_two_services :
    let (runs, c) := interleave gateway [0, 1, 1, 0, 0, 1]
      (twoServices.map fun us => Apply.units us .never) .empty
    (∀ p ∈ runs, ∃ result, p = .done result ∧ result.isSuccess = true) ∧
      Applied .empty twoServices c ∧
      twoServices.flatten.flatMap (assignedPorts c) = [.ofNat 30001, .ofNat 30000] := by
  have h := apply_interleaved .empty twoServices [0, 1, 1, 0, 0, 1] rfl (by decide) (by decide)
  have hruns : (interleave gateway [0, 1, 1, 0, 0, 1]
      (twoServices.map fun us => Apply.units us .never) .empty).1 =
        [.done ⟨[(nodePortUnit "one").ref], none, none⟩,
          .done ⟨[(nodePortUnit "two").ref], none, none⟩] := rfl
  have ended : ∀ p ∈ (interleave gateway [0, 1, 1, 0, 0, 1]
      (twoServices.map fun us => Apply.units us .never) .empty).1,
      ∃ result, p = .done result ∧ result.isSuccess = true := by
    rw [hruns]
    intro p hp
    rcases List.mem_cons.mp hp with rfl | hp
    · exact ⟨_, rfl, rfl⟩
    · obtain rfl := List.mem_singleton.mp hp
      exact ⟨_, rfl, rfl⟩
  refine ⟨ended, h.2.2.1 ?_, rfl⟩
  intro p hp
  obtain ⟨result, hdone, -⟩ := ended p hp
  exact ⟨result, hdone⟩

end ClusterProvisioning.Proofs
