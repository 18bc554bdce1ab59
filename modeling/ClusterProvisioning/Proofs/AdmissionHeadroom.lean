import ClusterProvisioning.Proofs.AdmissionCourse
import ClusterProvisioning.Proofs.ClusterStore
import Mathlib

/-!
# The headroom of nodes

Admission computes with 64-bit amounts that stop at the greatest and at zero. Its answer is that of
exact arithmetic on natural numbers: some single node has, beside the sum of what its pods request,
room for the whole request. So the order of nodes and pods does not matter. On a gateway where some
listings fail, the answer is justified by what was listed before (`check_justified`).
-/

namespace ClusterProvisioning.Proofs
open Program MemoryCluster

/-- The sum of one resource over pods, without a bound. -/
def exactSum (amount : Resources → UInt64) (pods : List PodFootprint) : Nat :=
  (pods.map fun pod => (amount pod.requested).toNat).sum

/-- The pods that run on a node. -/
def podsOn (pods : List PodFootprint) (node : NodeView) : List PodFootprint :=
  pods.filter fun pod => pod.node = node.name

/-- A node has room for a request beside some pods, in natural numbers: each difference stops at
zero, and GPUs count only when some are requested. -/
def HasRoom (request : Resources) (node : NodeView) (pods : List PodFootprint) : Prop :=
  request.cpuMillis.toNat ≤
      node.allocatable.cpuMillis.toNat - exactSum Resources.cpuMillis pods ∧
    request.memoryBytes.toNat ≤
      node.allocatable.memoryBytes.toNat - exactSum Resources.memoryBytes pods ∧
    (0 < request.gpus.toNat →
      request.gpus.toNat ≤ node.allocatable.gpus.toNat - exactSum Resources.gpus pods)

/-! ### Saturation -/

/-- A resource that sums stop at the greatest amount sums over a list up to that amount. -/
theorem toNat_foldl_saturates {amount : Resources → UInt64}
    (hadd : ∀ a b : Resources, amount (a + b) = Resources.addAmount (amount a) (amount b))
    (rs : List Resources) (start : Resources) :
    (amount (rs.foldl (· + ·) start)).toNat =
      min ((amount start).toNat + (rs.map fun r => (amount r).toNat).sum) (UInt64.size - 1) := by
  induction rs generalizing start with
  | nil =>
    have := (amount start).toNat_lt
    simp only [List.foldl_nil, List.map_nil, List.sum_nil, UInt64.size]
    omega
  | cons r rs ih =>
    rw [List.foldl_cons, ih, hadd, Resources.toNat_addAmount, List.map_cons, List.sum_cons]
    omega

/-- A sum that stops at the greatest amount leaves of a capacity what the exact sum leaves. -/
theorem toNat_headroom (amount : Resources → UInt64)
    (hzero : amount Resources.zero = 0)
    (hadd : ∀ a b : Resources, amount (a + b) = Resources.addAmount (amount a) (amount b))
    (hsub : ∀ a b : Resources, amount (a - b) = Resources.subAmount (amount a) (amount b))
    (node : NodeView) (pods : List PodFootprint) :
    (amount (Admission.headroom node pods)).toNat =
      (amount node.allocatable).toNat - exactSum amount pods := by
  have hcapacity := (amount node.allocatable).toNat_lt
  have hsum := toNat_foldl_saturates hadd (pods.map PodFootprint.requested) Resources.zero
  rw [hzero, List.map_map] at hsum
  change _ = min (0 + exactSum amount pods) (UInt64.size - 1) at hsum
  -- Where the sum stops it is no smaller than any capacity, and both differences are zero.
  unfold Admission.headroom Resources.sum
  rw [hsub, Resources.toNat_subAmount, hsum, UInt64.size]
  omega

theorem fits_iff (available request : Resources) :
    available.fits request = true ↔
      request.cpuMillis.toNat ≤ available.cpuMillis.toNat ∧
        request.memoryBytes.toNat ≤ available.memoryBytes.toNat ∧
        (0 < request.gpus.toNat → request.gpus.toNat ≤ available.gpus.toNat) := by
  have hgpus : request.gpus = 0 ↔ request.gpus.toNat = 0 := UInt64.toNat_inj.symm
  simp only [Resources.fits, Bool.and_eq_true, Bool.or_eq_true, decide_eq_true_eq, beq_iff_eq,
    UInt64.le_iff_toNat_le, hgpus, and_assoc]
  refine and_congr_right fun _ => and_congr_right fun _ => ?_
  omega

theorem headroom_fits_iff (request : Resources) (node : NodeView) (pods : List PodFootprint) :
    (Admission.headroom node pods).fits request = true ↔ HasRoom request node pods := by
  rw [fits_iff, HasRoom,
    toNat_headroom Resources.cpuMillis rfl (fun _ _ => rfl) (fun _ _ => rfl),
    toNat_headroom Resources.memoryBytes rfl (fun _ _ => rfl) (fun _ _ => rfl),
    toNat_headroom Resources.gpus rfl (fun _ _ => rfl) (fun _ _ => rfl)]

theorem fits_of_hasRoom {request : Resources} {node : NodeView} {pods : List PodFootprint}
    (room : HasRoom request node pods) : node.allocatable.fits request = true := by
  obtain ⟨hcpu, hmemory, hgpus⟩ := room
  rw [fits_iff]
  refine ⟨by omega, by omega, fun hpositive => ?_⟩
  have hleft := hgpus hpositive
  omega

/-! ### The order of pods -/

theorem exactSum_perm {pods others : List PodFootprint} (h : pods.Perm others)
    (amount : Resources → UInt64) : exactSum amount pods = exactSum amount others :=
  (h.map _).sum_eq

theorem podsOn_perm {pods others : List PodFootprint} (h : pods.Perm others) (node : NodeView) :
    (podsOn pods node).Perm (podsOn others node) :=
  h.filter _

theorem hasRoom_perm {pods others : List PodFootprint} (h : pods.Perm others)
    (request : Resources) (node : NodeView) :
    HasRoom request node pods ↔ HasRoom request node others := by
  simp only [HasRoom, exactSum_perm h]

/-! ### Verdicts -/

/-- A node whose pods were listed, with those pods. -/
structure Look where
  node : NodeView
  pods : List PodFootprint

/-- The listing of the pods. -/
def Look.event (look : Look) : Event :=
  .call (.listPods look.node.name) (.ok look.pods)

/-- The nodes that would have room for the request without any pods, in order. -/
def candidates (request : Resources) (nodes : List NodeView) : List NodeView :=
  nodes.filter fun node => node.allocatable.fits request

/-- None of the nodes looked at has room. -/
def NoneFits (request : Resources) (looks : List Look) : Prop :=
  ∀ look ∈ looks, ¬HasRoom request look.node look.pods

/-- What a check can do and what it then answers. It looks at the candidates in order, up to the
first that has room or cannot be looked at. -/
inductive Verdict (request : Resources) : List Event → Outcome Bool → Prop
  | unlisted {report : Report GatewayError} :
      Verdict request [.call .listNodes (.error report)]
        (.error (.above (.transport .listNodes) report))
  | denied {nodes : List NodeView} {looks : List Look}
      (order : looks.map Look.node = candidates request nodes) (full : NoneFits request looks) :
      Verdict request (.call .listNodes (.ok nodes) :: looks.map Look.event) (.ok false)
  | admitted {nodes : List NodeView} {looks : List Look} {last : Look} {rest : List NodeView}
      (order : candidates request nodes = looks.map Look.node ++ last.node :: rest)
      (full : NoneFits request looks) (room : HasRoom request last.node last.pods) :
      Verdict request (.call .listNodes (.ok nodes) :: (looks ++ [last]).map Look.event)
        (.ok true)
  | unseen {nodes : List NodeView} {looks : List Look} {node : NodeView} {rest : List NodeView}
      {report : Report GatewayError}
      (order : candidates request nodes = looks.map Look.node ++ node :: rest)
      (full : NoneFits request looks) :
      Verdict request
        (.call .listNodes (.ok nodes) ::
          (looks.map Look.event ++ [.call (.listPods node.name) (.error report)]))
        (.error (.above (.transport (.listPods node.name)) report))

/-- The step that failed where a listing did. -/
def listingStep : GatewayCall → Option ClusterStep
  | .listNodes => some .listNodes
  | .listPods node => some (.listPods node)
  | .create .. | .get _ | .delete _ | .update .. => none

theorem mem_candidates {request : Resources} {nodes : List NodeView} {node : NodeView} :
    node ∈ candidates request nodes ↔ node ∈ nodes ∧ node.allocatable.fits request = true :=
  List.mem_filter

theorem candidates_short {request : Resources} {node : NodeView}
    (short : node.allocatable.fits request = false) (nodes : List NodeView) :
    candidates request (node :: nodes) = candidates request nodes :=
  List.filter_cons_of_neg (p := fun node : NodeView => node.allocatable.fits request)
    (Bool.eq_false_iff.mp short)

theorem candidates_ample {request : Resources} {node : NodeView}
    (ample : node.allocatable.fits request = true) (nodes : List NodeView) :
    candidates request (node :: nodes) = node :: candidates request nodes :=
  List.filter_cons_of_pos (p := fun node : NodeView => node.allocatable.fits request) ample

theorem candidates_append (request : Resources) (nodes others : List NodeView) :
    candidates request (nodes ++ others) = candidates request nodes ++ candidates request others :=
  List.filter_append ..

theorem verdict_lists {request : Resources} {events : List Event} {a : Outcome Bool}
    (verdict : Verdict request events a) :
    ∃ result : GatewayCall.listNodes.Result, .call .listNodes result ∈ events := by
  cases verdict <;> exact ⟨_, List.mem_cons_self⟩

theorem nodesPassed_looks {request : Resources} {nodes : List NodeView} {events : List Event}
    (passed : NodesPassed request nodes events) :
    ∃ looks : List Look, events = looks.map Look.event ∧
      looks.map Look.node = candidates request nodes ∧ NoneFits request looks := by
  induction passed with
  | nil => exact ⟨[], rfl, rfl, fun _ h => absurd h List.not_mem_nil⟩
  | small short rest ih =>
    obtain ⟨looks, rfl, order, full⟩ := ih
    refine ⟨looks, rfl, ?_, full⟩
    rw [order, candidates_short short]
  | @full node nodes events pods ample taken rest ih =>
    obtain ⟨looks, rfl, order, full⟩ := ih
    refine ⟨⟨node, pods⟩ :: looks, rfl, ?_, ?_⟩
    · rw [List.map_cons, order, candidates_ample ample]
    · intro look hlook
      rcases List.mem_cons.mp hlook with rfl | hlook
      · rw [← headroom_fits_iff, taken]
        exact Bool.false_ne_true
      · exact full look hlook

theorem verdict_of_check {request : Resources} {events : List Event} {a : Outcome Bool}
    (h : Traces (Admission.check request) events a) : Verdict request events a := by
  rcases traces_check h with ⟨report, rfl, rfl⟩ | ⟨nodes, later, rfl, survey⟩
  · exact .unlisted
  obtain ⟨passed, rest, looked, decisive, rfl, rfl, hpassed, decision⟩ := survey
  obtain ⟨looks, rfl, order, full⟩ := nodesPassed_looks hpassed
  have hcandidates : candidates request (passed ++ rest) =
      looks.map Look.node ++ candidates request rest := by
    rw [candidates_append, order]
  cases decision with
  | denied =>
    rw [List.append_nil, List.append_nil]
    exact .denied order full
  | @admitted node nodes pods ample room =>
    rw [candidates_ample ample] at hcandidates
    have hevents : looks.map Look.event ++ [.call (.listPods node.name) (.ok pods)] =
        (looks ++ [(⟨node, pods⟩ : Look)]).map Look.event := by
      rw [List.map_append]
      rfl
    rw [hevents]
    exact .admitted hcandidates full ((headroom_fits_iff _ _ _).mp room)
  | @unlisted node nodes report ample =>
    rw [candidates_ample ample] at hcandidates
    exact .unseen hcandidates full

/-- A look is a listing that succeeded. -/
theorem looks_succeed (looks : List Look) (call : GatewayCall) (report : Report GatewayError) :
    .call call (.error report) ∉ looks.map Look.event := by
  intro h
  obtain ⟨look, -, heq⟩ := List.mem_map.mp h
  cases heq

/-- A listing that fails ends the check with an error of the transport that tells it. -/
theorem verdict_failed {request : Resources} {events : List Event} {a : Outcome Bool}
    (verdict : Verdict request events a) {call : GatewayCall} {listing : Report GatewayError}
    (failed : .call call (.error listing) ∈ events) :
    ∃ step, listingStep call = some step ∧ a = .error (.above (.transport step) listing) := by
  cases verdict with
  | unlisted =>
    cases List.mem_singleton.mp failed
    exact ⟨_, rfl, rfl⟩
  | @denied nodes looks order full =>
    rcases List.mem_cons.mp failed with heq | failed
    · cases heq
    · exact absurd failed (looks_succeed looks call listing)
  | @admitted nodes looks last rest order full room =>
    rcases List.mem_cons.mp failed with heq | failed
    · cases heq
    · exact absurd failed (looks_succeed _ call listing)
  | @unseen nodes looks node rest report order full =>
    rcases List.mem_cons.mp failed with heq | failed
    · cases heq
    rcases List.mem_append.mp failed with failed | failed
    · exact absurd failed (looks_succeed looks call listing)
    · cases List.mem_singleton.mp failed
      exact ⟨_, rfl, rfl⟩

/-- On every gateway a denial has seen each candidate without room, an admission has seen room on
the first candidate that has some, and a listing that fails ends the check with an error. -/
theorem check_justified {σ : Type} (g : Gateway σ) (s : σ) (request : Resources) :
    let (answer, _, events) := (Admission.check request).run g s
    (answer = .ok false → ∃ nodes looks,
      events = .call .listNodes (.ok nodes) :: looks.map Look.event ∧
        looks.map Look.node = candidates request nodes ∧ NoneFits request looks) ∧
    (answer = .ok true → ∃ nodes looks last rest,
      events = .call .listNodes (.ok nodes) :: (looks ++ [last]).map Look.event ∧
        candidates request nodes = looks.map Look.node ++ last.node :: rest ∧
        NoneFits request looks ∧ HasRoom request last.node last.pods) ∧
    (∀ report, answer = .error report →
      (∃ listing, events = [.call .listNodes (.error listing)] ∧
        report = .above (.transport .listNodes) listing) ∨
      ∃ nodes looks node rest listing,
        events = .call .listNodes (.ok nodes) ::
          (looks.map Look.event ++ [.call (.listPods node.name) (.error listing)]) ∧
        candidates request nodes = looks.map Look.node ++ node :: rest ∧
        NoneFits request looks ∧ report = .above (.transport (.listPods node.name)) listing) ∧
    ∀ (call : GatewayCall) (listing : Report GatewayError),
      .call call (.error listing) ∈ events → ∃ step, listingStep call = some step ∧
        answer = .error (.above (.transport step) listing) := by
  rcases h : (Admission.check request).run g s with ⟨answer, s', events⟩
  obtain ⟨traced, -⟩ := (run_eq_iff _ _ _ _ _ _).mp h
  have verdict := verdict_of_check traced
  dsimp only
  refine ⟨?_, ?_, ?_, fun _ _ => verdict_failed verdict⟩
  · rintro rfl
    cases verdict with
    | @denied nodes looks order full => exact ⟨nodes, looks, rfl, order, full⟩
  · rintro rfl
    cases verdict with
    | @admitted nodes looks last rest order full room =>
      exact ⟨nodes, looks, last, rest, rfl, order, full, room⟩
  · rintro report rfl
    cases verdict with
    | @unlisted listing => exact .inl ⟨listing, rfl, rfl⟩
    | @unseen nodes looks node rest listing order full =>
      exact .inr ⟨nodes, looks, node, rest, listing, rfl, order, full, rfl⟩

/-! ### The answer of a check -/

/-- Some single node has room for the request beside the pods that run on it. -/
def SomeRoom (request : Resources) (nodes : List NodeView) (pods : List PodFootprint) : Prop :=
  ∃ node ∈ nodes, HasRoom request node (podsOn pods node)

theorem someRoom_perm {nodes others : List NodeView} {pods runs : List PodFootprint}
    (hnodes : nodes.Perm others) (hpods : pods.Perm runs) (request : Resources) :
    SomeRoom request nodes pods ↔ SomeRoom request others runs := by
  unfold SomeRoom
  constructor
  · rintro ⟨node, hmem, room⟩
    exact ⟨node, hnodes.mem_iff.mp hmem, (hasRoom_perm (podsOn_perm hpods node) _ _).mp room⟩
  · rintro ⟨node, hmem, room⟩
    exact ⟨node, hnodes.mem_iff.mpr hmem, (hasRoom_perm (podsOn_perm hpods node) _ _).mpr room⟩

/-- What is listed is, in any order, these nodes and for each of them the pods that run on it. -/
structure Truthful (nodes : List NodeView) (pods : List PodFootprint) (events : List Event) :
    Prop where
  nodesListed : ∀ result : GatewayCall.listNodes.Result, .call .listNodes result ∈ events →
    ∃ listed, result = .ok listed ∧ listed.Perm nodes
  podsListed : ∀ node ∈ nodes, ∀ result : (GatewayCall.listPods node.name).Result,
    .call (.listPods node.name) result ∈ events →
      ∃ listed, result = .ok listed ∧ listed.Perm (podsOn pods node)

theorem listed_perm {nodes listed : List NodeView} {pods : List PodFootprint}
    {events : List Event} (truth : Truthful nodes pods (.call .listNodes (.ok listed) :: events)) :
    listed.Perm nodes := by
  obtain ⟨others, heq, hperm⟩ := truth.nodesListed _ List.mem_cons_self
  cases heq
  exact hperm

theorem look_room {nodes : List NodeView} {pods : List PodFootprint} {events : List Event}
    (truth : Truthful nodes pods events) {look : Look} (known : look.node ∈ nodes)
    (seen : look.event ∈ events) (request : Resources) :
    HasRoom request look.node look.pods ↔ HasRoom request look.node (podsOn pods look.node) := by
  obtain ⟨listed, hlisted, hperm⟩ := truth.podsListed look.node known _ seen
  cases hlisted
  exact hasRoom_perm hperm _ _

/-- A check that is told the truth answers whether some node has room. -/
theorem verdict_answers {request : Resources} {nodes : List NodeView} {pods : List PodFootprint}
    {events : List Event} {a : Outcome Bool} (verdict : Verdict request events a)
    (truth : Truthful nodes pods events) :
    ∃ answer, a = .ok answer ∧ (answer = true ↔ SomeRoom request nodes pods) := by
  cases verdict with
  | unlisted =>
    obtain ⟨listed, hlisted, -⟩ := truth.nodesListed _ List.mem_cons_self
    cases hlisted
  | @denied listed looks order full =>
    have hnodes := listed_perm truth
    refine ⟨false, rfl, fun h => absurd h Bool.false_ne_true, ?_⟩
    rintro ⟨node, hmem, room⟩
    have hcandidate : node ∈ looks.map Look.node := by
      rw [order, mem_candidates]
      exact ⟨hnodes.mem_iff.mpr hmem, fits_of_hasRoom room⟩
    obtain ⟨look, hlook, rfl⟩ := List.mem_map.mp hcandidate
    have hrooms := look_room truth hmem
      (List.mem_cons_of_mem _ (List.mem_map_of_mem hlook)) request
    exact absurd (hrooms.mpr room) (full look hlook)
  | @admitted listed looks last rest order full room =>
    have hnodes := listed_perm truth
    have hlast : last.node ∈ nodes := by
      have hmem : last.node ∈ candidates request listed := by simp [order]
      exact hnodes.mem_iff.mp (mem_candidates.mp hmem).1
    have hseen : last.event ∈
        .call .listNodes (.ok listed) :: (looks ++ [last]).map Look.event := by simp
    refine ⟨true, rfl, fun _ => ?_, fun _ => rfl⟩
    exact ⟨last.node, hlast, (look_room truth hlast hseen request).mp room⟩
  | @unseen listed looks node rest report order full =>
    have hnodes := listed_perm truth
    have hnode : node ∈ nodes := by
      have hmem : node ∈ candidates request listed := by simp [order]
      exact hnodes.mem_iff.mp (mem_candidates.mp hmem).1
    obtain ⟨_, hlisted, -⟩ := truth.podsListed node hnode (.error report) (by simp)
    cases hlisted

/-- A cluster whose listings succeed lists its nodes and pods as they are. -/
theorem serves_truthful {c c' : MemoryCluster} {events : List Event}
    (served : Serves gateway c events c') (listing : ∀ call ∈ callTrail events, Lists call)
    (nodesListed : c.nodeListingFails = false) (podsListed : c.podListingFails = false) :
    Truthful c.nodes c.pods events := by
  have given : ∀ (call : GatewayCall) (result : call.Result), .call call result ∈ events →
      ∃ calls, (gateway.answer call { c with calls := calls }).1 = result := by
    intro call result hmem
    obtain ⟨t, ⟨calls, rfl⟩, hanswer⟩ :=
      serves_mem_kept (fun d => ∃ calls, d = { c with calls := calls })
        (fun d hd t ⟨calls, ht⟩ => ht ▸ answer_lists _ (listing d hd)) served ⟨c.calls, rfl⟩ hmem
    exact ⟨calls, hanswer⟩
  constructor
  · intro result hmem
    obtain ⟨calls, rfl⟩ := given _ _ hmem
    refine ⟨c.nodes, ?_, .refl _⟩
    change (MemoryCluster.listNodes _).1 = _
    rw [MemoryCluster.listNodes, if_neg (Bool.eq_false_iff.mp nodesListed)]
  · intro node hnode result hmem
    obtain ⟨calls, rfl⟩ := given _ _ hmem
    refine ⟨podsOn c.pods node, ?_, .refl _⟩
    change (MemoryCluster.listPods _ _).1 = _
    rw [MemoryCluster.listPods, if_neg (Bool.eq_false_iff.mp podsListed)]
    rfl

/-- On a cluster whose listings succeed a check answers whether some node has room. -/
theorem check_answers (c : MemoryCluster) (request : Resources)
    (nodesListed : c.nodeListingFails = false) (podsListed : c.podListingFails = false) :
    ∃ answer, ((Admission.check request).run gateway c).1 = .ok answer ∧
      (answer = true ↔ SomeRoom request c.nodes c.pods) := by
  rcases h : (Admission.check request).run gateway c with ⟨a, c', events⟩
  obtain ⟨traced, served⟩ := (run_eq_iff _ _ _ _ _ _).mp h
  exact verdict_answers (verdict_of_check traced)
    (serves_truthful served (check_lists traced) nodesListed podsListed)

/-- The answer of a check is that of exact arithmetic, and it is the same for every order of the
nodes and of the pods. -/
theorem check_exact (c : MemoryCluster) (request : Resources)
    (nodesListed : c.nodeListingFails = false) (podsListed : c.podListingFails = false) :
    ∃ answer, ((Admission.check request).run gateway c).1 = .ok answer ∧
      (answer = true ↔ SomeRoom request c.nodes c.pods) ∧
      ∀ nodes pods, nodes.Perm c.nodes → pods.Perm c.pods →
        ((Admission.check request).run gateway { c with nodes := nodes, pods := pods }).1 =
          .ok answer := by
  obtain ⟨answer, hanswer, hroom⟩ := check_answers c request nodesListed podsListed
  refine ⟨answer, hanswer, hroom, fun nodes pods hnodes hpods => ?_⟩
  obtain ⟨other, hother, hsame⟩ :=
    check_answers { c with nodes := nodes, pods := pods } request nodesListed podsListed
  have hrooms := hsame.trans ((someRoom_perm hnodes hpods request).trans hroom.symm)
  rw [hother, Bool.eq_iff_iff.mpr hrooms]

/-- A cluster with a node whose pods request more than a 64-bit amount holds, and a small one. -/
def overcommittedCluster : MemoryCluster :=
  { MemoryCluster.empty with
    nodes := [⟨"crowded", none, ⟨2 ^ 64 - 1, 2 ^ 40, 1⟩⟩, ⟨"small", none, ⟨500, 2 ^ 30, 0⟩⟩]
    pods := [⟨"crowded", ⟨2 ^ 64 - 1, 2 ^ 20, 0⟩⟩, ⟨"small", ⟨100, 2 ^ 20, 0⟩⟩,
      ⟨"crowded", ⟨2 ^ 63, 2 ^ 20, 1⟩⟩] }

theorem check_exact_overcommitted :
    overcommittedCluster.nodeListingFails = false ∧
      overcommittedCluster.podListingFails = false ∧
      ∃ answer,
        ((Admission.check ⟨400, 0, 0⟩).run gateway overcommittedCluster).1 = .ok answer ∧
          (answer = true ↔
            SomeRoom ⟨400, 0, 0⟩ overcommittedCluster.nodes overcommittedCluster.pods) ∧
          ∀ nodes pods, nodes.Perm overcommittedCluster.nodes →
            pods.Perm overcommittedCluster.pods →
            ((Admission.check ⟨400, 0, 0⟩).run gateway
              { overcommittedCluster with nodes := nodes, pods := pods }).1 = .ok answer :=
  ⟨rfl, rfl, check_exact overcommittedCluster ⟨400, 0, 0⟩ rfl rfl⟩

example : ((Admission.check ⟨400, 0, 0⟩).run gateway overcommittedCluster).1 = .ok true := by
  cbv

example : ((Admission.check ⟨401, 0, 0⟩).run gateway overcommittedCluster).1 = .ok false := by
  cbv

end ClusterProvisioning.Proofs
