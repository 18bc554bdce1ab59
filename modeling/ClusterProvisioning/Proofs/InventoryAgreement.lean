import ClusterProvisioning.Proofs.AdmissionHeadroom
import ClusterProvisioning.Proofs.ApiExchange

/-!
# Agreement of inventories

Admission asks an API server, which publishes nodes and pods as objects, or a cluster in memory,
which is loaded with what the objects say. If every quantity can be read the answers are the same
(`inventories_agree`); where one cannot, the server is never taken to have no room.
-/

namespace ClusterProvisioning.Proofs
open Program MemoryCluster

variable {α β ε σ : Type}

/-! ### Traversals that can fail -/

theorem mapM_succeeds {f : α → Except ε β} {value : α → β} {xs : List α}
    (h : ∀ x ∈ xs, f x = .ok (value x)) : xs.mapM f = .ok (xs.map value) := by
  induction xs with
  | nil => rfl
  | cons x xs ih =>
    rw [List.mapM_cons, h x List.mem_cons_self, ih fun y hy => h y (List.mem_cons_of_mem x hy)]
    rfl

theorem mapM_fails {f : α → Except ε β} {xs : List α} {x : α} (hx : x ∈ xs)
    (h : ∃ e, f x = .error e) : ∃ e, xs.mapM f = .error e := by
  induction xs with
  | nil => exact absurd hx List.not_mem_nil
  | cons y xs ih =>
    rw [List.mapM_cons]
    cases hy : f y with
    | error e => exact ⟨e, rfl⟩
    | ok value =>
      obtain ⟨e, hrest⟩ : ∃ e, xs.mapM f = .error e := by
        rcases List.mem_cons.mp hx with rfl | hx
        · obtain ⟨e, he⟩ := h
          cases hy.symm.trans he
        · exact ih hx
      rw [hrest]
      exact ⟨e, rfl⟩

/-! ### Tables of quantities -/

def quantityText (table : Json) (resource : String) : Option String :=
  (table.member? resource).bind Json.text?

/-- The quantity of a resource is read, if the table has one. -/
def Readable (table : Json) (resource : String)
    (read : String → Except QuantityError UInt64) : Prop :=
  ∀ text ∈ quantityText table resource, (read text).isOk = true

instance (table : Json) (resource : String) (read : String → Except QuantityError UInt64) :
    Decidable (Readable table resource read) :=
  inferInstanceAs (Decidable (∀ text ∈ quantityText table resource, (read text).isOk = true))

/-- Every quantity that admission looks at is read. -/
def Parses (table : Json) : Prop :=
  Readable table "cpu" Quantity.cpuMillis ∧ Readable table "memory" Quantity.memoryBytes ∧
    Readable table gpuResource Quantity.count

instance (table : Json) : Decidable (Parses table) :=
  inferInstanceAs (Decidable (_ ∧ _ ∧ _))

/-- The amount of a resource that the table has, or zero. -/
def amountIn (table : Json) (resource : String)
    (read : String → Except QuantityError UInt64) : UInt64 :=
  ((quantityText table resource).bind fun text => (read text).toOption).getD 0

def amountsIn (table : Json) : Resources where
  cpuMillis := amountIn table "cpu" Quantity.cpuMillis
  memoryBytes := amountIn table "memory" Quantity.memoryBytes
  gpus := amountIn table gpuResource Quantity.count

theorem amount_readable {table : Json} {resource : String}
    {read : String → Except QuantityError UInt64} (h : Readable table resource read) :
    Inventory.amount table resource read = .ok (amountIn table resource read) := by
  unfold Inventory.amount amountIn quantityText
  split
  next text htext =>
    have hok := h text htext
    cases hread : read text with
    | ok n => simp [htext, hread, Except.mapError, Except.toOption]
    | error e =>
      rw [hread] at hok
      cases hok
  next hnone =>
    rw [hnone]
    rfl

theorem amount_unreadable {table : Json} {resource : String}
    {read : String → Except QuantityError UInt64} (h : ¬Readable table resource read) :
    ∃ report, Inventory.amount table resource read = .error report := by
  unfold Inventory.amount
  split
  next text htext =>
    cases hread : read text with
    | error e => exact ⟨_, rfl⟩
    | ok n =>
      refine absurd (fun other hother => ?_) h
      cases htext.symm.trans hother
      rw [hread]
      rfl
  next hnone => exact absurd (fun other hother => nomatch hnone.symm.trans hother) h

theorem resources_parsed {table : Json} (h : Parses table) :
    Inventory.resources table = .ok (amountsIn table) := by
  obtain ⟨hcpu, hmemory, hgpus⟩ := h
  unfold Inventory.resources
  rw [amount_readable hcpu, amount_readable hmemory, amount_readable hgpus]
  rfl

theorem resources_unparsed {table : Json} (h : ¬Parses table) :
    ∃ report, Inventory.resources table = .error report := by
  unfold Inventory.resources
  by_cases hcpu : Readable table "cpu" Quantity.cpuMillis
  · rw [amount_readable hcpu]
    by_cases hmemory : Readable table "memory" Quantity.memoryBytes
    · rw [amount_readable hmemory]
      obtain ⟨report, hgpus⟩ := amount_unreadable fun hgpus => h ⟨hcpu, hmemory, hgpus⟩
      rw [hgpus]
      exact ⟨report, rfl⟩
    · obtain ⟨report, hmemory⟩ := amount_unreadable hmemory
      rw [hmemory]
      exact ⟨report, rfl⟩
  · obtain ⟨report, hcpu⟩ := amount_unreadable hcpu
    rw [hcpu]
    exact ⟨report, rfl⟩

/-! ### Nodes and pods -/

def NodeParses (node : Json) : Prop :=
  ∀ table ∈ node.at? ["status", "allocatable"], Parses table

instance (node : Json) : Decidable (NodeParses node) :=
  inferInstanceAs (Decidable (∀ table ∈ node.at? ["status", "allocatable"], Parses table))

/-- A node as admission is told of it; what it does not say it has is zero. -/
def viewOf (node : Json) : NodeView where
  name := Inventory.textAt node ["metadata", "name"]
  internalAddress :=
    ((Inventory.itemsAt node ["status", "addresses"]).find? fun address =>
      Inventory.textAt address ["type"] = "InternalIP").map fun address =>
        Inventory.textAt address ["address"]
  allocatable := ((node.at? ["status", "allocatable"]).map amountsIn).getD .zero

/-- The node that a pod is scheduled on. -/
def placeOf (pod : Json) : String :=
  Inventory.textAt pod ["spec", "nodeName"]

/-- The tables of what these containers request. -/
def requestsOf (containers : List Json) : List Json :=
  containers.filterMap fun container => container.at? ["resources", "requests"]

def PodParses (pod : Json) : Prop :=
  ∀ table ∈ requestsOf (Inventory.itemsAt pod ["spec", "containers"]), Parses table

instance (pod : Json) : Decidable (PodParses pod) :=
  inferInstanceAs (Decidable (∀ table ∈ requestsOf _, Parses table))

/-- A pod as admission is told of it, with the sum of what its containers request. -/
def footprintOf (pod : Json) : PodFootprint where
  node := placeOf pod
  requested :=
    .sum ((requestsOf (Inventory.itemsAt pod ["spec", "containers"])).map amountsIn)

theorem nodeView_parsed {node : Json} (h : NodeParses node) :
    Inventory.nodeView node = .ok (viewOf node) := by
  unfold NodeParses at h
  unfold Inventory.nodeView viewOf
  cases htable : node.at? ["status", "allocatable"] with
  | none => rfl
  | some table =>
    dsimp only
    rw [resources_parsed (h table htable)]
    rfl

theorem nodeView_unparsed {node : Json} (h : ¬NodeParses node) :
    ∃ report, Inventory.nodeView node = .error report := by
  unfold NodeParses at h
  unfold Inventory.nodeView
  cases htable : node.at? ["status", "allocatable"] with
  | none =>
    rw [htable] at h
    exact absurd nofun h
  | some table =>
    have hparses : ¬Parses table := by
      intro hparses
      rw [htable] at h
      exact h fun _ heq => Option.some.inj heq ▸ hparses
    obtain ⟨report, hreport⟩ := resources_unparsed hparses
    dsimp only
    rw [hreport]
    exact ⟨_, rfl⟩

theorem requestsOf_cons (container : Json) (rest : List Json) :
    requestsOf (container :: rest) =
      (container.at? ["resources", "requests"]).toList ++ requestsOf rest := by
  unfold requestsOf
  rw [List.filterMap_cons]
  cases container.at? ["resources", "requests"] <;> rfl

theorem addContainers_parsed (podName : String) (containers : List Json) (start : Resources)
    (h : ∀ table ∈ requestsOf containers, Parses table) :
    containers.foldlM (Inventory.addContainer podName) start =
      .ok (((requestsOf containers).map amountsIn).foldl (· + ·) start) := by
  induction containers generalizing start with
  | nil => rfl
  | cons container rest ih =>
    rw [requestsOf_cons] at h ⊢
    rw [List.foldlM_cons, Inventory.addContainer]
    cases htable : container.at? ["resources", "requests"] with
    | none =>
      rw [htable] at h
      exact ih start h
    | some table =>
      rw [htable] at h
      dsimp only
      rw [resources_parsed (h table List.mem_cons_self)]
      exact ih (start + amountsIn table) fun t ht => h t (List.mem_cons_of_mem table ht)

theorem addContainers_unparsed (podName : String) (containers : List Json) (start : Resources)
    (h : ∃ table ∈ requestsOf containers, ¬Parses table) :
    ∃ report, containers.foldlM (Inventory.addContainer podName) start = .error report := by
  induction containers generalizing start with
  | nil =>
    obtain ⟨table, hmem, -⟩ := h
    exact absurd hmem List.not_mem_nil
  | cons container rest ih =>
    rw [requestsOf_cons] at h
    rw [List.foldlM_cons, Inventory.addContainer]
    cases htable : container.at? ["resources", "requests"] with
    | none =>
      rw [htable] at h
      exact ih start h
    | some table =>
      rw [htable] at h
      dsimp only
      by_cases hparses : Parses table
      · rw [resources_parsed hparses]
        obtain ⟨other, hmem, hother⟩ := h
        have hrest : other ∈ requestsOf rest :=
          List.mem_of_ne_of_mem (fun heq => hother (heq ▸ hparses)) hmem
        exact ih (start + amountsIn table) ⟨other, hrest, hother⟩
      · obtain ⟨report, hreport⟩ := resources_unparsed hparses
        rw [hreport]
        exact ⟨_, rfl⟩

theorem podFootprint_parsed {pod : Json} (h : PodParses pod) :
    Inventory.podFootprint (placeOf pod) pod = .ok (footprintOf pod) := by
  unfold Inventory.podFootprint
  dsimp only
  rw [addContainers_parsed _ _ _ h]
  rfl

theorem podFootprint_unparsed {pod : Json} (node : String) (h : ¬PodParses pod) :
    ∃ report, Inventory.podFootprint node pod = .error report := by
  unfold PodParses at h
  push Not at h
  obtain ⟨report, hreport⟩ :=
    addContainers_unparsed (Inventory.textAt pod ["metadata", "name"]) _ .zero h
  unfold Inventory.podFootprint
  dsimp only
  rw [hreport]
  exact ⟨_, rfl⟩

/-! ### Servers -/

/-- The reply is a list of these objects, in any order. -/
def Delivers (item : Schema) (objects : List Json) (reply : HttpReply) : Prop :=
  ∃ status body listed, reply = .answered status body ∧ Http.isFailure status = false ∧
    (Json.readDocument? body).bind (Inventory.items? item) = some listed ∧ listed.Perm objects

/-- The call is sent, and the server always replies with a list of these objects. -/
def Offers (exchange : HttpRequest → σ → HttpReply × σ) (c : GatewayCall) (item : Schema)
    (objects : List Json) : Prop :=
  ∃ r, ApiServer.request c = .ok r ∧ ∀ s, Delivers item objects (exchange r s).1

/-- A server with these nodes and pods: it lists the nodes, and by the name of a node the pods that
are scheduled there. -/
structure Publishes (exchange : HttpRequest → σ → HttpReply × σ) (nodes pods : List Json) :
    Prop where
  nodeList : Offers exchange .listNodes .node nodes
  podLists : ∀ node ∈ nodes, Offers exchange (.listPods (viewOf node).name) .pod
    (pods.filter fun pod => placeOf pod = (viewOf node).name)

/-- A cluster in memory with these nodes and pods. -/
def loadedWith (nodes pods : List Json) : MemoryCluster :=
  { MemoryCluster.empty with nodes := nodes.map viewOf, pods := pods.map footprintOf }

section Servers

variable {exchange : HttpRequest → σ → HttpReply × σ} {nodes pods : List Json} {s s' : σ}
  {events : List Event}

theorem offered_answer {c : GatewayCall} {item : Schema} {objects : List Json}
    (offers : Offers exchange c item objects)
    (served : Serves (ApiServer.gatewayOver exchange) s events s') {result : c.Result}
    (h : .call c result ∈ events) :
    ∃ document listed, document.bind (Inventory.items? item) = some listed ∧
      listed.Perm objects ∧ result = ApiServer.answer c document := by
  obtain ⟨r, hsent, hreply⟩ := offers
  obtain ⟨t, hanswer⟩ := serves_mem served h
  obtain ⟨status, body, listed, hanswered, hstatus, hlisted, hperm⟩ := hreply t
  rw [gatewayOver_sent t hsent, hanswered] at hanswer
  refine ⟨_, listed, hlisted, hperm, hanswer.symm.trans ?_⟩
  simp only [ApiServer.result, hstatus, Bool.false_eq_true, if_false]

theorem nodes_listed (published : Publishes exchange nodes pods)
    (served : Serves (ApiServer.gatewayOver exchange) s events s')
    {result : GatewayCall.listNodes.Result} (h : .call .listNodes result ∈ events) :
    ∃ listed : List Json, listed.Perm nodes ∧ result = listed.mapM Inventory.nodeView := by
  obtain ⟨document, listed, hlisted, hperm, rfl⟩ := offered_answer published.nodeList served h
  refine ⟨listed, hperm, ?_⟩
  simp only [ApiServer.answer, hlisted]

theorem pods_listed (published : Publishes exchange nodes pods)
    (served : Serves (ApiServer.gatewayOver exchange) s events s') {node : Json}
    (hnode : node ∈ nodes) {result : (GatewayCall.listPods (viewOf node).name).Result}
    (h : .call (.listPods (viewOf node).name) result ∈ events) :
    ∃ listed : List Json,
      listed.Perm (pods.filter fun pod => placeOf pod = (viewOf node).name) ∧
        result = listed.mapM (Inventory.podFootprint (viewOf node).name) := by
  obtain ⟨document, listed, hlisted, hperm, rfl⟩ :=
    offered_answer (published.podLists node hnode) served h
  refine ⟨listed, hperm, ?_⟩
  simp only [ApiServer.answer, hlisted]

theorem podsOn_footprints (pods : List Json) (node : NodeView) :
    podsOn (pods.map footprintOf) node =
      (pods.filter fun pod => placeOf pod = node.name).map footprintOf := by
  unfold podsOn
  rw [List.filter_map]
  rfl

/-- A server whose quantities can all be read tells admission what they say. -/
theorem published_truthful (published : Publishes exchange nodes pods)
    (served : Serves (ApiServer.gatewayOver exchange) s events s')
    (nodesParse : ∀ node ∈ nodes, NodeParses node) (podsParse : ∀ pod ∈ pods, PodParses pod) :
    Truthful (nodes.map viewOf) (pods.map footprintOf) events := by
  constructor
  · intro result hcall
    obtain ⟨listed, hperm, rfl⟩ := nodes_listed published served hcall
    refine ⟨listed.map viewOf, mapM_succeeds fun node hnode => ?_, hperm.map viewOf⟩
    exact nodeView_parsed (nodesParse node (hperm.subset hnode))
  · intro view hview result hcall
    obtain ⟨node, hnode, rfl⟩ := List.mem_map.mp hview
    obtain ⟨listed, hperm, rfl⟩ := pods_listed published served hnode hcall
    rw [podsOn_footprints]
    refine ⟨listed.map footprintOf, mapM_succeeds fun pod hpod => ?_, hperm.map footprintOf⟩
    obtain ⟨hmem, hplace⟩ := List.mem_filter.mp (hperm.subset hpod)
    rw [← of_decide_eq_true hplace]
    exact podFootprint_parsed (podsParse pod hmem)

theorem node_unread {request : Resources} {a : Outcome Bool}
    (published : Publishes exchange nodes pods)
    (served : Serves (ApiServer.gatewayOver exchange) s events s')
    (verdict : Verdict request events a) {node : Json} (hnode : node ∈ nodes)
    (unread : ¬NodeParses node) :
    ∃ report, a = .error report ∧ report.cause = .transport .listNodes := by
  obtain ⟨result, hcall⟩ := verdict_lists verdict
  obtain ⟨listed, hperm, rfl⟩ := nodes_listed published served hcall
  obtain ⟨listing, hlisting⟩ := mapM_fails (hperm.mem_iff.mpr hnode) (nodeView_unparsed unread)
  rw [hlisting] at hcall
  obtain ⟨step, ⟨⟩, rfl⟩ := verdict_failed verdict hcall
  exact ⟨_, rfl, rfl⟩

theorem pod_unread {request : Resources} {a : Outcome Bool}
    (published : Publishes exchange nodes pods)
    (served : Serves (ApiServer.gatewayOver exchange) s events s')
    (verdict : Verdict request events a) {node pod : Json} (hnode : node ∈ nodes)
    (inspected : .listPods (viewOf node).name ∈ callTrail events) (hpod : pod ∈ pods)
    (placed : placeOf pod = (viewOf node).name) (unread : ¬PodParses pod) :
    ∃ report, a = .error report ∧
      report.cause = .transport (.listPods (viewOf node).name) := by
  obtain ⟨result, hcall⟩ := mem_callTrail.mp inspected
  obtain ⟨listed, hperm, rfl⟩ := pods_listed published served hnode hcall
  have hlisted : pod ∈ listed :=
    hperm.mem_iff.mpr (List.mem_filter.mpr ⟨hpod, decide_eq_true placed⟩)
  obtain ⟨listing, hlisting⟩ := mapM_fails hlisted (podFootprint_unparsed _ unread)
  rw [hlisting] at hcall
  obtain ⟨step, ⟨⟩, rfl⟩ := verdict_failed verdict hcall
  exact ⟨_, rfl, rfl⟩

end Servers

/-- A server and a cluster in memory with the same nodes and pods answer every request alike, if
all quantities can be read. If those of a node cannot, or those of a pod on a node that is looked
at, the check fails. -/
theorem inventories_agree (exchange : HttpRequest → σ → HttpReply × σ) (nodes pods : List Json)
    (published : Publishes exchange nodes pods) (s : σ) (request : Resources) :
    let (answer, _, events) := (Admission.check request).run (ApiServer.gatewayOver exchange) s
    ((∀ node ∈ nodes, NodeParses node) → (∀ pod ∈ pods, PodParses pod) →
      answer = ((Admission.check request).run gateway (loadedWith nodes pods)).1 ∧
        ∃ admitted, answer = .ok admitted) ∧
    (∀ node ∈ nodes, ¬NodeParses node →
      ∃ report, answer = .error report ∧ report.cause = .transport .listNodes) ∧
    ∀ node ∈ nodes, .listPods (viewOf node).name ∈ callTrail events →
      ∀ pod ∈ pods, placeOf pod = (viewOf node).name → ¬PodParses pod →
        ∃ report, answer = .error report ∧
          report.cause = .transport (.listPods (viewOf node).name) := by
  rcases h : (Admission.check request).run (ApiServer.gatewayOver exchange) s with
    ⟨answer, s', events⟩
  obtain ⟨traced, served⟩ := (run_eq_iff _ _ _ _ _ _).mp h
  have verdict := verdict_of_check traced
  dsimp only
  refine ⟨fun nodesParse podsParse => ?_, fun _ => node_unread published served verdict,
    fun _ hnode inspected _ => pod_unread published served verdict hnode inspected⟩
  obtain ⟨admitted, rfl, hroom⟩ :=
    verdict_answers verdict (published_truthful published served nodesParse podsParse)
  obtain ⟨other, hother, hsame⟩ := check_answers (loadedWith nodes pods) request rfl rfl
  refine ⟨?_, admitted, rfl⟩
  rw [hother, Bool.eq_iff_iff.mpr (hroom.trans hsame.symm)]

/-- The body of a list of objects. -/
def listBody (objects : List Json) : String :=
  Json.render (.object [("metadata", .object []), ("items", .array objects)])

/-- The objects that a list is read as. -/
def listed (item : Schema) (body : String) : List Json :=
  ((Json.readDocument? body).bind (Inventory.items? item)).getD []

/-- A node that says nothing of what it has, and one with room. -/
def nodesBody : String :=
  listBody [.object [("metadata", .object [("name", .string "new")])],
    .object [("metadata", .object [("name", .string "ready")]),
      ("status", .object [("allocatable",
        .object [("cpu", .string "1500m"), (gpuResource, .string "2")])])]]

/-- A pod whose first container requests nothing. -/
def podsBody : String :=
  listBody [.object [("metadata", .object []),
    ("spec", .object [
      ("containers", .array [.object [("name", .string "log")],
        .object [("name", .string "work"),
          ("resources", .object [("requests", .object [("cpu", .string "1")])])]]),
      ("nodeName", .string "ready")])]]

/-- A server that lists them by the targets of the requests. -/
def publishingServer (r : HttpRequest) (_ : Unit) : HttpReply × Unit :=
  if r.target = "/api/v1/nodes?" then (.answered 200 nodesBody, ())
  else if r.target = "/api/v1/pods?&fieldSelector=spec.nodeName%3Dready" then
    (.answered 200 podsBody, ())
  else (.answered 200 (listBody []), ())

theorem nodesBody_read :
    ((Json.readDocument? nodesBody).bind (Inventory.items? .node)).isSome = true ∧
      (listed .node nodesBody).map viewOf =
        [⟨"new", none, .zero⟩, ⟨"ready", none, ⟨1500, 0, 2⟩⟩] ∧
      ∀ node ∈ listed .node nodesBody, NodeParses node := by
  -- A long string is slow to take apart, so the reader is given the characters.
  unfold listed nodesBody listBody Json.render Json.readDocument?
  simp only [String.toList_ofList]
  decide +kernel

theorem podsBody_read :
    ((Json.readDocument? podsBody).bind (Inventory.items? .pod)).isSome = true ∧
      (listed .pod podsBody).map footprintOf = [⟨"ready", ⟨1000, 0, 0⟩⟩] ∧
      ∀ pod ∈ listed .pod podsBody, PodParses pod := by
  unfold listed podsBody listBody Json.render Json.readDocument?
  simp only [String.toList_ofList]
  decide +kernel

theorem delivers_listed {item : Schema} {body : String}
    (reads : ((Json.readDocument? body).bind (Inventory.items? item)).isSome = true) :
    Delivers item (listed item body) (.answered 200 body) := by
  obtain ⟨items, hitems⟩ := Option.isSome_iff_exists.mp reads
  refine ⟨200, body, items, rfl, rfl, hitems, ?_⟩
  rw [listed, hitems]
  exact .refl items

theorem emptyBody_read :
    ((Json.readDocument? (listBody [])).bind (Inventory.items? .pod)).isSome = true ∧
      listed .pod (listBody []) = [] :=
  ⟨by decide +kernel, List.eq_nil_of_length_eq_zero (by decide +kernel)⟩

theorem publishingServer_publishes :
    Publishes publishingServer (listed .node nodesBody) (listed .pod podsBody) := by
  have placed : ∀ pod ∈ listed .pod podsBody, placeOf pod = "ready" := by
    intro pod hpod
    have hmem := List.mem_map_of_mem (f := footprintOf) hpod
    rw [podsBody_read.2.1] at hmem
    exact congrArg PodFootprint.node (List.mem_singleton.mp hmem)
  constructor
  · refine ⟨⟨"GET", "/api/v1/nodes?", none, none⟩, by cbv, fun _ => ?_⟩
    simp only [publishingServer, if_true]
    exact delivers_listed nodesBody_read.1
  · intro node hnode
    have hmem := List.mem_map_of_mem (f := viewOf) hnode
    rw [nodesBody_read.2.1] at hmem
    rcases List.mem_pair.mp hmem with hview | hview
    · rw [hview, List.filter_eq_nil_iff.mpr fun pod hpod => by simp [placed pod hpod],
        ← emptyBody_read.2]
      refine ⟨⟨"GET", "/api/v1/pods?&fieldSelector=spec.nodeName%3Dnew", none, none⟩, by cbv,
        fun _ => ?_⟩
      simp only [publishingServer, String.reduceEq, if_false]
      exact delivers_listed emptyBody_read.1
    · rw [hview, List.filter_eq_self.mpr fun pod hpod => by simp [placed pod hpod]]
      refine ⟨⟨"GET", "/api/v1/pods?&fieldSelector=spec.nodeName%3Dready", none, none⟩, by cbv,
        fun _ => ?_⟩
      simp only [publishingServer, String.reduceEq, if_false, if_true]
      exact delivers_listed podsBody_read.1

theorem inventories_agree_published :
    let nodes := listed .node nodesBody
    let pods := listed .pod podsBody
    Publishes publishingServer nodes pods ∧
      (∀ node ∈ nodes, NodeParses node) ∧ (∀ pod ∈ pods, PodParses pod) ∧
      ∀ request,
        ((Admission.check request).run (ApiServer.gatewayOver publishingServer) ()).1 =
          ((Admission.check request).run gateway (loadedWith nodes pods)).1 := by
  refine ⟨publishingServer_publishes, nodesBody_read.2.2, podsBody_read.2.2, fun request => ?_⟩
  -- The server is forgotten, so that nothing is evaluated below.
  have published := publishingServer_publishes
  generalize publishingServer = server at published ⊢
  have agree := inventories_agree server _ _ published () request
  rcases h : (Admission.check request).run (ApiServer.gatewayOver server) () with
    ⟨answer, s, events⟩
  rw [h] at agree
  exact (agree.1 nodesBody_read.2.2 podsBody_read.2.2).1

end ClusterProvisioning.Proofs
