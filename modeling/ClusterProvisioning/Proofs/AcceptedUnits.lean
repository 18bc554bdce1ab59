import ClusterProvisioning.Proofs.ApiExchange
import ClusterProvisioning.Proofs.ApplyCalls
import ClusterProvisioning.Proofs.PlanBuild

/-!
# Units that an API server accepted

A server can accept an object and answer with a body that does not read as one. For the run that
applies a plan such a create has failed, so its unit is not among those that are listed or undone.
A unit that was accepted is kept track of exactly when the body of the answer decodes
(`accepted_tracked`).
-/

namespace ClusterProvisioning.Proofs
open Program ApiServer

/-- The object that a call creates. -/
def creates : GatewayCall → Option Ref
  | .create ns kind manifest => (Manifest.name? manifest).map fun name => ⟨kind, ns, name⟩
  | _ => none

/-- The object is among those that a run leaves, or a request to delete it was sent. -/
def Tracked (result : ApplyResult) (target : Ref) (later : List Exchange) : Prop :=
  target ∈ result.created ∨ ∃ x ∈ later, x.call = .delete target

theorem creates_iff {c : GatewayCall} {target : Ref} :
    creates c = some target ↔
      ∃ manifest, c = .create target.ns target.kind manifest ∧
        Manifest.name? manifest = some target.name := by
  constructor
  · intro h
    cases c with
    | create ns kind manifest =>
      obtain ⟨name, hname, rfl⟩ := Option.map_eq_some_iff.mp h
      exact ⟨manifest, rfl, hname⟩
    | get _ => cases h
    | delete _ => cases h
    | update _ _ => cases h
    | listNodes => cases h
    | listPods _ => cases h
  · rintro ⟨manifest, rfl, hname⟩
    rw [creates, hname]
    rfl

theorem mem_exchanges_iff {s : Script} {calls : List GatewayCall} {c : GatewayCall} :
    (∃ x ∈ exchanges s calls, x.call = c) ↔ c ∈ calls ∧ isSent c = true := by
  rw [← List.mem_filter, ← exchanges_calls s calls, List.mem_map]

/-! ### Creates that succeed -/

/-- Among the events in which units are created, a create of an object is that of a unit: it
succeeds, and the delete before it leaves nothing under the name. -/
theorem made_of_create {us : List PlanUnit} {events : List Event} {target : Ref} {manifest : Json}
    {answer : (GatewayCall.create target.ns target.kind manifest).Result}
    (created : UnitsCreated us events) (form : PlanForm us)
    (named : Manifest.name? manifest = some target.name)
    (hmem : .call (.create target.ns target.kind manifest) answer ∈ events) :
    (∃ u ∈ us, u.ref = target) ∧ (∃ made, answer = .ok made) ∧
      ∃ removed, Settles removed ∧ .call (.delete target) removed ∈ events := by
  obtain ⟨kind, ns, name⟩ := target
  induction created with
  | nil => exact absurd hmem List.not_mem_nil
  | @cons u us events removed made settled rest ih =>
    rcases List.mem_cons.mp hmem with h | hmem
    · cases h
    rcases List.mem_cons.mp hmem with h | hmem
    · cases h
      have hname := form.named u List.mem_cons_self
      obtain rfl : u.name = name := Option.some.inj (hname.symm.trans named)
      exact ⟨⟨u, List.mem_cons_self, rfl⟩, ⟨made, rfl⟩, removed, settled, List.mem_cons_self⟩
    rcases List.mem_cons.mp hmem with h | hmem
    · cases h
    obtain ⟨⟨v, hv, href⟩, hanswer, removed', settled', hdelete⟩ := ih (planForm_tail form) hmem
    refine ⟨⟨v, List.mem_cons_of_mem u hv, href⟩, hanswer, removed', settled', ?_⟩
    exact List.mem_cons_of_mem _ (List.mem_cons_of_mem _ (List.mem_cons_of_mem _ hdelete))

/-- A unit that is to be undone stays, or its delete is called. -/
theorem undone_tracked {us : List PlanUnit} {events : List Event} {left : List Ref}
    {failures : List (Report ProvisionError)} (undone : UnitsUndone us events left failures)
    (form : PlanForm us) {u : PlanUnit} (hu : u ∈ us) :
    u.ref ∈ left ∨ .delete u.ref ∈ callTrail events := by
  cases action : u.rollback with
  | some target =>
    obtain rfl := rollback_target form hu action
    right
    rw [callTrail_unitsUndone undone]
    exact List.mem_map_of_mem (List.mem_filterMap.mpr ⟨u, hu, action⟩)
  | none =>
    left
    induction undone with
    | nil => exact absurd hu List.not_mem_nil
    | permanent _ rest ih =>
      rcases List.mem_cons.mp hu with rfl | hu
      · exact List.mem_cons_self
      · exact List.mem_cons_of_mem _ (ih (planForm_tail form) hu)
    | undone other _ rest ih =>
      rcases List.mem_cons.mp hu with rfl | hu
      · cases action.symm.trans other
      · exact ih (planForm_tail form) hu
    | orphaned other _ rest ih =>
      rcases List.mem_cons.mp hu with rfl | hu
      · cases action.symm.trans other
      · exact List.mem_cons_of_mem _ (ih (planForm_tail form) hu)

/-- A unit that was made is listed at the end, or its delete is called after all creates. -/
theorem ending_tracked {cancel : Cancellation} {made rest : List PlanUnit} {events : List Event}
    {result : ApplyResult} (ending : Ending cancel made rest events result)
    (form : PlanForm made) {u : PlanUnit} (hu : u ∈ made) :
    u.ref ∈ result.created ∨ .delete u.ref ∈ callTrail events := by
  have listed : u.ref ∈ made.map PlanUnit.ref := List.mem_map_of_mem hu
  cases ending with
  | completed => exact .inl listed
  | cancelled _ => exact .inl listed
  | kept _ _ => exact .inl listed
  | rolledBack fails policy undone =>
    rw [callTrail_append, List.mem_append]
    rcases undone_tracked undone (planForm_reverse form) (List.mem_reverse.mpr hu) with h | h
    · exact .inl (List.mem_reverse.mpr h)
    · exact .inr (.inr h)

/-! ### Creates that fail -/

/-- Undoing calls deletes of the units alone. -/
theorem undone_deletes {us : List PlanUnit} {events : List Event} {left : List Ref}
    {failures : List (Report ProvisionError)} (undone : UnitsUndone us events left failures)
    (form : PlanForm us) {c : GatewayCall} (hc : c ∈ callTrail events) :
    ∃ u ∈ us, c = .delete u.ref := by
  rw [callTrail_unitsUndone undone] at hc
  obtain ⟨target, htarget, rfl⟩ := List.mem_map.mp hc
  obtain ⟨u, hu, action⟩ := List.mem_filterMap.mp htarget
  obtain rfl := rollback_target form hu action
  exact ⟨u, hu, rfl⟩

/-- Where a unit is not created, its create is the last call before the undoing. -/
theorem failed_of_create {u : PlanUnit} {tried undo before after : List Event}
    {report : Report ProvisionError} {target : Ref} {manifest : Json}
    {answer : (GatewayCall.create target.ns target.kind manifest).Result}
    (fails : UnitFails u tried report) (unit : Manifest.name? u.manifest = some u.name)
    (named : Manifest.name? manifest = some target.name)
    (undoing : ∀ c ∈ callTrail undo, creates c = none)
    (split : tried ++ undo =
      before ++ .call (.create target.ns target.kind manifest) answer :: after) :
    target = u.ref ∧ after = undo := by
  obtain ⟨kind, ns, name⟩ := target
  have apart : ∀ rest,
      undo ≠ rest ++ .call (.create ns kind manifest) answer :: after := by
    rintro rest rfl
    have hmem : .create ns kind manifest ∈
        callTrail (rest ++ .call (.create ns kind manifest) answer :: after) :=
      mem_callTrail.mpr ⟨answer, List.mem_append_right rest List.mem_cons_self⟩
    have hcreates : creates (.create ns kind manifest) = some ⟨kind, ns, name⟩ :=
      creates_iff.mpr ⟨manifest, rfl, named⟩
    cases (undoing _ hmem).symm.trans hcreates
  cases fails with
  | atDelete _ =>
    cases before with
    | nil => cases split
    | cons _ before => exact absurd (List.cons.inj split).2 (apart before)
  | atCreate _ =>
    cases before with
    | nil => cases split
    | cons _ before =>
      have split := (List.cons.inj split).2
      cases before with
      | nil =>
        cases split
        obtain rfl : u.name = name := Option.some.inj (unit.symm.trans named)
        exact ⟨rfl, rfl⟩
      | cons _ before => exact absurd (List.cons.inj split).2 (apart before)

/-- A create that is called where a run ends is that of a unit that is neither listed nor deleted
afterwards. -/
theorem ending_untracked {cancel : Cancellation} {made rest : List PlanUnit}
    {events before after : List Event} {result : ApplyResult} {target : Ref} {manifest : Json}
    {answer : (GatewayCall.create target.ns target.kind manifest).Result}
    (ending : Ending cancel made rest events result) (form : PlanForm (made ++ rest))
    (named : Manifest.name? manifest = some target.name)
    (split : events = before ++ .call (.create target.ns target.kind manifest) answer :: after) :
    target ∉ result.created ∧ .delete target ∉ callTrail after := by
  have hmade := planForm_sublist (List.sublist_append_left made rest) form
  have unit : ∀ u ∈ rest, Manifest.name? u.manifest = some u.name := fun u hu =>
    form.named u (List.mem_append_right made hu)
  have fresh : ∀ u ∈ rest, u.ref ∉ made.map PlanUnit.ref := by
    intro u hu hmem
    obtain ⟨v, hv, heq⟩ := List.mem_map.mp hmem
    exact refs_apart form.distinct v hv u hu heq
  have unlisted := ending_sublist ending
  cases ending with
  | completed => cases before <;> cases split
  | cancelled abandoned =>
    cases abandoned with
    | unbegun _ => cases before <;> cases split
    | atDelete _ => cases before <;> cases split
    | atCreate _ _ =>
      cases before with
      | nil => cases split
      | cons _ before =>
        have split := (List.cons.inj split).2
        cases before <;> cases split
  | @kept u rest tried report fails policy =>
    rw [← List.append_nil events] at split
    have undoing : ∀ c ∈ callTrail [], creates c = none := fun c hc =>
      absurd hc List.not_mem_nil
    obtain ⟨rfl, rfl⟩ :=
      failed_of_create fails (unit u List.mem_cons_self) named undoing split
    exact ⟨fresh u List.mem_cons_self, List.not_mem_nil⟩
  | @rolledBack u rest tried undo report left failures fails policy undone =>
    have undoing : ∀ c ∈ callTrail undo, creates c = none := by
      intro c hc
      obtain ⟨v, -, rfl⟩ := undone_deletes undone (planForm_reverse hmade) hc
      rfl
    obtain ⟨rfl, rfl⟩ :=
      failed_of_create fails (unit u List.mem_cons_self) named undoing split
    refine ⟨fun h => fresh u List.mem_cons_self (unlisted.subset h), fun h => ?_⟩
    obtain ⟨v, hv, heq⟩ := undone_deletes undone (planForm_reverse hmade) h
    apply fresh u List.mem_cons_self
    rw [GatewayCall.delete.inj heq]
    exact List.mem_map_of_mem (List.mem_reverse.mp hv)

/-! ### Applying a plan -/

/-- An item of two lists in a row stands in the second, or in the first with the second after it. -/
theorem position_of_split {α : Type} {first second before after : List α} {x : α}
    (split : first ++ second = before ++ x :: after) :
    (∃ middle, second = middle ++ x :: after) ∨
      ∃ middle, after = middle ++ second ∧ first = before ++ x :: middle := by
  rcases List.append_eq_append_iff.mp split with ⟨middle, -, h⟩ | ⟨middle, hfirst, hafter⟩
  · exact .inl ⟨middle, h⟩
  · cases middle with
    | nil => exact .inl ⟨[], hafter.symm⟩
    | cons y middle =>
      obtain ⟨hitem, hafter⟩ := List.cons.inj hafter
      rw [← hitem] at hfirst
      exact .inr ⟨middle, hafter, hfirst⟩

/-- However applying a plan ends, a unit whose create was called is kept track of exactly when that
create succeeded. -/
theorem course_tracked {cancel : Cancellation} {us : List PlanUnit} {s s' t : Script}
    {events before after : List Event} {result : ApplyResult} {target : Ref} {manifest : Json}
    {answer : (GatewayCall.create target.ns target.kind manifest).Result}
    (course : Course cancel us events result) (form : PlanForm us)
    (served : Serves gateway s events s')
    (named : Manifest.name? manifest = some target.name)
    (split : events = before ++ .call (.create target.ns target.kind manifest) answer :: after) :
    Tracked result target (exchanges t (callTrail after)) ↔ ∃ made, answer = .ok made := by
  unfold Tracked
  rw [mem_exchanges_iff]
  obtain ⟨made, rest, done, tail, rfl, rfl, created, ending⟩ := course
  have hmade := planForm_sublist (List.sublist_append_left made rest) form
  -- The create stands where the run ends, or where units are made.
  rcases position_of_split split with ⟨middle, htail⟩ | ⟨middle, rfl, hdone⟩
  · obtain ⟨unlisted, undeleted⟩ := ending_untracked ending form named htail
    constructor
    · rintro (h | ⟨h, -⟩)
      · exact absurd h unlisted
      · exact absurd h undeleted
    · rintro ⟨target', rfl⟩
      have hcreated : CreatedIn tail target' := by
        refine ⟨target.ns, target.kind, manifest, ?_⟩
        rw [htail]
        exact List.mem_append_right middle List.mem_cons_self
      exact absurd hcreated (ending_creates_nothing ending target')
  · have hmem : .call (.create target.ns target.kind manifest) answer ∈ done := by
      rw [hdone]
      exact List.mem_append_right before List.mem_cons_self
    obtain ⟨⟨u, hu, rfl⟩, hanswer, removed, settled, hdelete⟩ :=
      made_of_create created hmade named hmem
    have sent : isSent (.delete u.ref) = true :=
      isSent_of_settled served (List.mem_append_left tail hdelete) settled
    refine ⟨fun _ => hanswer, fun _ => ?_⟩
    rcases ending_tracked ending hmade hu with h | h
    · exact .inl h
    · rw [callTrail_append, List.mem_append]
      exact .inr ⟨.inr h, sent⟩

/-- Over every script and however the caller cancels: the server has seen exactly the requests of
the exchanges, and a unit of the plan whose create it accepted is listed in the result, or deleted
by a later request, exactly when the body of the answer decodes. -/
theorem accepted_tracked (config : Config) (request : WorkloadRequest) (suffix : String)
    (plan : Plan) (built : Plan.build config request suffix = .ok plan) (cancel : Cancellation)
    (script : Script) :
    let (result, script', events) := (Apply.units plan.units cancel).run gateway script
    let log := exchanges script (callTrail events)
    script'.sent = script.sent ++ log.map Exchange.request ∧
      ∀ u ∈ plan.units, ∀ earlier post later status body, log = earlier ++ post :: later →
        creates post.call = some u.ref → post.reply = .answered status body →
        200 ≤ status ∧ status < 300 → (Tracked result u.ref later ↔ Decodes body) := by
  rcases h : (Apply.units plan.units cancel).run gateway script with ⟨result, script', events⟩
  obtain ⟨traced, served⟩ := (run_eq_iff _ _ _ _ _ _).mp h
  refine ⟨serves_sent served, ?_⟩
  intro u hu earlier post later status body hlog hpost hreply accepted
  obtain ⟨before, after, t, split, rfl⟩ := exchange_split served hlog
  obtain ⟨call, r, reply⟩ := post
  obtain ⟨manifest, hcall, named⟩ := creates_iff.mp hpost
  dsimp only at hcall hreply split
  subst hcall hreply
  rw [← created_iff_decodes accepted]
  exact course_tracked (course_of_traces traced) (planForm_of_build built) served named split

/-- A training job, whose plan is a single unit. -/
def trainingRequest : WorkloadRequest := { claimingRequest with kind := .trainingJob }

/-- A server that finds nothing to delete, and accepts an object with a text that is none. -/
def garblingScript : Script := ⟨[.answered 404 "", .answered 201 "accepted"], []⟩

/-- The job that the server accepted is lost. -/
theorem accepted_tracked_garbled :
    ∃ plan, Plan.build .standard trainingRequest "1a2b3" = .ok plan ∧
      let (result, _, events) := (Apply.units plan.units .never).run gateway garblingScript
      ∃ u ∈ plan.units, ∃ first post,
        exchanges garblingScript (callTrail events) = [first, post] ∧
          creates post.call = some u.ref ∧ post.reply = .answered 201 "accepted" ∧
          ¬Tracked result u.ref [] := by
  have runs : ((Plan.build .standard trainingRequest "1a2b3").toOption.map fun plan =>
      let (_, _, events) := (Apply.units plan.units .never).run gateway garblingScript
      (plan.units.map PlanUnit.ref, (exchanges garblingScript (callTrail events)).map
        fun x : Exchange => (creates x.call, x.reply))) =
      some ([⟨.pyTorchJob, "train", "lab"⟩], [(none, .answered 404 ""),
        (some ⟨.pyTorchJob, "train", "lab"⟩, .answered 201 "accepted")]) := by
    decide +kernel
  cases built : Plan.build .standard trainingRequest "1a2b3" with
  | error report =>
    rw [built] at runs
    cases runs
  | ok plan =>
    have tracked :=
      accepted_tracked .standard trainingRequest "1a2b3" plan built .never garblingScript
    refine ⟨plan, rfl, ?_⟩
    rw [built] at runs
    rcases h : (Apply.units plan.units .never).run gateway garblingScript with ⟨result, s, events⟩
    rw [h] at tracked
    simp only [Except.toOption, Option.map_some, h, Option.some.injEq, Prod.mk.injEq] at runs
    obtain ⟨hunits, hlog⟩ := runs
    obtain ⟨u, hu, href⟩ := List.mem_map.mp (hunits ▸ List.mem_cons_self)
    obtain ⟨first, rest, hlog, -, hrest⟩ := List.map_eq_cons_iff.mp hlog
    obtain ⟨post, rest, rfl, hpost, hnil⟩ := List.map_eq_cons_iff.mp hrest
    obtain rfl := List.map_eq_nil_iff.mp hnil
    obtain ⟨hcreates, hreply⟩ := Prod.mk.inj hpost
    rw [← href] at hcreates
    have decodes := tracked.2 u hu [first] post [] 201 "accepted" hlog hcreates hreply (by decide)
    have garbled : ¬Decodes "accepted" := by decide +kernel
    exact ⟨u, hu, first, post, hlog, hcreates, hreply, fun h => garbled (decodes.mp h)⟩

end ClusterProvisioning.Proofs
