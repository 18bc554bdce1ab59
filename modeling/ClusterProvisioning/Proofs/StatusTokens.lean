import ClusterProvisioning.Proofs.JsonPaths
import ClusterProvisioning.Proofs.PlanBuild
import ClusterProvisioning.Status
import Mathlib.Data.List.Induction

/-!
# The tokens of raw objects

What each strategy reads, said in terms of the places that it looks at: `Tells` relates a strategy,
a raw object and the token that the object tells by it. A registry reads an object by the strategy
registered last for its kind, and answers with exactly the token that the object tells by it, or
with an error if it tells none (`normalize_tells`).
-/

namespace ClusterProvisioning.Proofs
open Status

/-- Nothing stands at a path, or null. -/
def Unset (j : Json) (path : List String) : Prop :=
  j.at? path = none ∨ j.at? path = some .null

/-- The phase that a workflow reports, `Unknown` where it reports none. -/
def WorkflowPhase (object : Json) (phase : String) : Prop :=
  object.at? ["status", "phase"] = some (.string phase) ∨
    Unset object ["status", "phase"] ∧ phase = "Unknown"

/-- A condition of type `Ready` whose status is `True`. -/
def SaysReady (condition : Json) : Prop :=
  condition.at? ["type"] = some (.string "Ready") ∧
    condition.at? ["status"] = some (.string "True")

/-- The token that a raw object tells by a strategy. -/
inductive Tells : Strategy → Json → String → Prop where
  | nothingReported {object : Json} (unset : Unset object ["status"]) : Tells .general object ""
  | phase {object : Json} {phase : String}
      (given : object.at? ["status", "phase"] = some (.string phase)) :
      Tells .general object phase
  | lastCondition {object last : Json} {earlier : List Json} {type : String}
      (unset : Unset object ["status", "phase"])
      (listed : object.at? ["status", "conditions"] = some (.array (earlier ++ [last])))
      (typed : last.at? ["type"] = some (.string type)) : Tells .general object type
  | workflowAlone {object : Json} {phase : String} (own : WorkflowPhase object phase)
      (alone : Unset object ["status", "nodes"] ∨
        object.at? ["status", "nodes"] = some (.object [])) : Tells .workflow object phase
  | workflowPending {object node : Json} {phase name : String} {earlier : Table Json}
      (own : WorkflowPhase object phase)
      (inspected : object.at? ["status", "nodes"] = some (.object (earlier ++ [(name, node)])))
      (pending : node.at? ["phase"] = some (.string "Pending")) : Tells .workflow object "Pending"
  | workflowUnderway {object node : Json} {phase name : String} {earlier : Table Json}
      (own : WorkflowPhase object phase)
      (inspected : object.at? ["status", "nodes"] = some (.object (earlier ++ [(name, node)])))
      (object? : node.isObject = true)
      (other : node.at? ["phase"] = none ∨
        ∃ text, node.at? ["phase"] = some (.string text) ∧ text ≠ "Pending") :
      Tells .workflow object phase
  | firstCondition {object first : Json} {later : List Json} {type : String}
      (listed : object.at? ["status", "conditions"] = some (.array (first :: later)))
      (typed : first.at? ["type"] = some (.string type)) : Tells .session object type
  | ready {object condition : Json} {items : List Json}
      (listed : object.at? ["status", "conditions"] = some (.array items))
      (member : condition ∈ items) (stated : SaysReady condition) : Tells .serving object "ready"
  | unready {object : Json}
      (unstated : Unset object ["status", "conditions"] ∨
        ∃ items, object.at? ["status", "conditions"] = some (.array items) ∧
          ∀ condition ∈ items, ¬SaysReady condition) : Tells .serving object "unready"
  | statePhase {object : Json} {phase : String}
      (given : object.at? ["status", "state", "phase"] = some (.string phase)) :
      Tells .batch object phase
  | noStatePhase {object : Json} (unset : Unset object ["status", "state", "phase"]) :
      Tells .batch object "unready"
  | custom {object : Json} {read : Json → Except ShapeError Status} {token : String}
      (reads : read object = .ok ⟨token⟩) : Tells (.custom read) object token

/-- A registration of a strategy. -/
structure Registration where
  group : String
  plural : String
  strategy : Strategy

/-- The registry after a sequence of registrations. -/
def registered (entries : List Registration) : StatusRegistry :=
  entries.foldl (fun r entry => r.register entry.group entry.plural entry.strategy) .empty

def Registration.Concerns (entry : Registration) (kind : Kind) : Prop :=
  entry.group = kind.group ∧ entry.plural = kind.plural

/-- The strategy registered last for the group and plural of a kind, else the general one. -/
inductive Selected (entries : List Registration) (kind : Kind) : Strategy → Prop where
  | last (earlier later : List Registration) {entry : Registration}
      (order : entries = earlier ++ entry :: later) (concerns : entry.Concerns kind)
      (others : ∀ other ∈ later, ¬other.Concerns kind) : Selected entries kind entry.strategy
  | fallback (others : ∀ other ∈ entries, ¬other.Concerns kind) : Selected entries kind .general

/-! ### Selection -/

theorem registered_append (entries : List Registration) (entry : Registration) :
    registered (entries ++ [entry]) =
      (registered entries).register entry.group entry.plural entry.strategy := by
  simp only [registered, List.foldl_append, List.foldl_cons, List.foldl_nil]

theorem strategyFor_register (r : StatusRegistry) (entry : Registration) (kind : Kind) :
    (entry.Concerns kind →
      (r.register entry.group entry.plural entry.strategy).strategyFor kind = entry.strategy) ∧
    (¬entry.Concerns kind →
      (r.register entry.group entry.plural entry.strategy).strategyFor kind =
        r.strategyFor kind) := by
  constructor
  · rintro ⟨hgroup, hplural⟩
    simp [StatusRegistry.strategyFor, StatusRegistry.register, hgroup, hplural]
  · intro other
    have hne : ((kind.group, kind.plural) == (entry.group, entry.plural)) = false := by
      refine beq_eq_false_iff_ne.mpr fun heq => other ?_
      exact ⟨(congrArg Prod.fst heq).symm, (congrArg Prod.snd heq).symm⟩
    simp only [StatusRegistry.strategyFor, StatusRegistry.register, List.lookup_cons, hne]

/-- The registry selects the strategy registered last. By induction on the registrations, the
latest of them taken off. -/
theorem selected_strategyFor (entries : List Registration) (kind : Kind) :
    Selected entries kind ((registered entries).strategyFor kind) := by
  induction entries using List.reverseRecOn with
  | nil => exact .fallback (by simp)
  | append_singleton entries entry ih =>
    rw [registered_append]
    have hregister := strategyFor_register (registered entries) entry kind
    by_cases concerns : entry.Concerns kind
    · rw [hregister.1 concerns]
      exact .last entries [] rfl concerns (by simp)
    · rw [hregister.2 concerns]
      have alone : ∀ other ∈ [entry], ¬other.Concerns kind :=
        List.forall_mem_singleton.mpr concerns
      generalize (registered entries).strategyFor kind = strategy at ih
      cases ih with
      | last earlier later order concerned others =>
        refine .last earlier (later ++ [entry]) ?_ concerned
          (List.forall_mem_append.mpr ⟨others, alone⟩)
        rw [order, List.append_assoc, List.cons_append]
      | fallback others => exact .fallback (List.forall_mem_append.mpr ⟨others, alone⟩)

/-! ### Reading fields -/

theorem field_eq_at? (object : Json) {name : String} (plain : Json.position? name = none) :
    field object name = present (object.at? ["status", name]) := by
  have hstatus : Json.position? "status" = none := by decide
  have hfield : ∀ status : Json, status.member? name = status.at? [name] :=
    fun status => member?_eq_at? status plain
  rw [field, member?_eq_at? object hstatus]
  simp only [hfield]
  rw [← at?_append]
  rfl

theorem present_cases (value : Option Json) :
    (value = none ∨ value = some .null) ∧ present value = none ∨
      ∃ j, j ≠ .null ∧ value = some j ∧ present value = some j := by
  cases value with
  | none => exact .inl ⟨.inl rfl, rfl⟩
  | some j =>
    cases j with
    | null => exact .inl ⟨.inr rfl, rfl⟩
    | bool | number | string | array | object => exact .inr ⟨_, by simp, rfl, rfl⟩

theorem present_none {value : Option Json} :
    present value = none ↔ value = none ∨ value = some .null := by
  rcases present_cases value with ⟨unset, habsent⟩ | ⟨j, hne, rfl, hpresent⟩
  · exact ⟨fun _ => unset, fun _ => habsent⟩
  · simp [hpresent, hne]

/-- Nothing stands below a place where nothing stands, or null. -/
theorem at?_below_unset {j : Json} {path : List String} (unset : Unset j path) (name : String) :
    j.at? (path ++ [name]) = none := by
  rw [at?_append]
  rcases unset with habsent | hnull
  · rw [habsent]
    rfl
  · rw [hnull]
    rfl

theorem present_some {value : Option Json} {j : Json} (hne : j ≠ .null) :
    present value = some j ↔ value = some j := by
  rcases present_cases value with ⟨rfl | rfl, habsent⟩ | ⟨other, -, rfl, hpresent⟩
  · simp [habsent]
  · simp [habsent, hne.symm]
  · rw [hpresent]

theorem text_some {value : Option Json} {otherwise : ShapeError} {s : String} :
    text value otherwise = .ok (some s) ↔ value = some (.string s) := by
  cases value with
  | none => simp [text]
  | some j => cases j <;> simp [text]

theorem text_none {value : Option Json} {otherwise : ShapeError} :
    text value otherwise = .ok none ↔ value = none := by
  cases value with
  | none => simp [text]
  | some j => cases j <;> simp [text]

theorem text_given {value : Option Json} {otherwise : ShapeError} {s : String} :
    text (present value) otherwise = .ok (some s) ↔ value = some (.string s) := by
  rw [text_some, present_some (by simp)]

theorem text_unset {value : Option Json} {otherwise : ShapeError} :
    text (present value) otherwise = .ok none ↔ value = none ∨ value = some .null := by
  rw [text_none, present_none]

theorem conditions_some {object : Json} {items : List Json} :
    conditions object = .ok (some items) ↔
      object.at? ["status", "conditions"] = some (.array items) := by
  rw [conditions, field_eq_at? object (by decide), ← present_some (by simp)]
  cases present (object.at? ["status", "conditions"]) with
  | none => simp
  | some j => cases j <;> simp

theorem conditions_none {object : Json} :
    conditions object = .ok none ↔ Unset object ["status", "conditions"] := by
  rw [conditions, field_eq_at? object (by decide), Unset, ← present_none]
  cases present (object.at? ["status", "conditions"]) with
  | none => simp
  | some j => cases j <;> simp

theorem conditionType_ok {condition : Json} {otherwise : ShapeError} {type : String} :
    conditionType condition otherwise = .ok ⟨type⟩ ↔
      condition.at? ["type"] = some (.string type) := by
  rw [← member?_eq_at? condition (by decide)]
  cases condition with
  | object members =>
    change (_ >>= _) = _ ↔ _
    rw [outcome_bind_ok, ← text_some]
    constructor
    · rintro ⟨given, hgiven, h⟩
      cases given with
      | none => cases h
      | some type => cases h; exact hgiven
    · exact fun h => ⟨_, h, rfl⟩
  | null | bool | number | string | array =>
    exact ⟨fun h => (by cases h), fun h => (by cases h)⟩

/-! ### Strategies -/

theorem ofSession_tells (object : Json) (token : String) :
    ofSession object = .ok ⟨token⟩ ↔ Tells .session object token := by
  unfold ofSession
  rw [outcome_bind_ok]
  constructor
  · rintro ⟨items, hitems, h⟩
    cases items with
    | none => cases h
    | some items =>
      cases items with
      | nil => cases h
      | cons first later =>
        exact .firstCondition (conditions_some.mp hitems) (conditionType_ok.mp h)
  · rintro ⟨⟩
    next first later listed typed =>
      exact ⟨_, conditions_some.mpr listed, conditionType_ok.mpr typed⟩

theorem ofGeneral_tells (object : Json) (token : String) :
    ofGeneral object = .ok ⟨token⟩ ↔ Tells .general object token := by
  unfold ofGeneral
  rw [member?_eq_at? object (by decide), field_eq_at? object (by decide)]
  rcases present_cases (object.at? ["status"]) with ⟨unset, habsent⟩ | ⟨j, hne, hstatus, hpresent⟩
  · rw [habsent]
    constructor
    · rintro ⟨⟩
      exact .nothingReported unset
    · have below : ∀ name, object.at? ["status", name] = none := at?_below_unset unset
      rintro (_ | given | ⟨-, listed, -⟩)
      · rfl
      · cases (below "phase").symm.trans given
      · cases (below "conditions").symm.trans listed
  · rw [hpresent]
    dsimp only
    rw [outcome_bind_ok]
    constructor
    · rintro ⟨phase, hphase, h⟩
      cases phase with
      | some phase =>
        cases h
        exact .phase (text_given.mp hphase)
      | none =>
        obtain ⟨items, hitems, h⟩ := outcome_bind_ok.mp h
        cases items with
        | none => cases h
        | some items =>
          rcases items.eq_nil_or_concat' with rfl | ⟨earlier, last, rfl⟩
          · cases h
          · dsimp only at h
            rw [List.getLast?_concat] at h
            exact .lastCondition (text_unset.mp hphase) (conditions_some.mp hitems)
              (conditionType_ok.mp h)
    · rintro (unset | given | ⟨unset, listed, typed⟩)
      · have hnone := present_none.mpr unset
        cases hpresent.symm.trans hnone
      · exact ⟨_, text_given.mpr given, rfl⟩
      · refine ⟨none, text_unset.mpr unset, ?_⟩
        refine outcome_bind_ok.mpr ⟨_, conditions_some.mpr listed, ?_⟩
        dsimp only
        rw [List.getLast?_concat]
        exact conditionType_ok.mpr typed

theorem workflowPhase_iff {object : Json} {phase : String} :
    (∃ given, text (present (object.at? ["status", "phase"])) .phaseNotString = .ok given ∧
      given.getD "Unknown" = phase) ↔ WorkflowPhase object phase := by
  constructor
  · rintro ⟨given, hgiven, rfl⟩
    cases given with
    | some phase => exact .inl (text_given.mp hgiven)
    | none => exact .inr ⟨text_unset.mp hgiven, rfl⟩
  · rintro (given | ⟨unset, rfl⟩)
    · exact ⟨some phase, text_given.mpr given, rfl⟩
    · exact ⟨none, text_unset.mpr unset, rfl⟩

/-- What the inspected node of a workflow makes of its phase. -/
theorem ofNode_ok {node : Json} {phase token : String} :
    (do
      if !node.isObject then throw .nodeNotMap
      match ← text (node.member? "phase") .nodePhaseNotString with
      | some "Pending" => return ⟨"Pending"⟩
      | _ => return ⟨phase⟩ : Except ShapeError Status) = .ok ⟨token⟩ ↔
      node.at? ["phase"] = some (.string "Pending") ∧ token = "Pending" ∨
        node.isObject = true ∧ token = phase ∧ (node.at? ["phase"] = none ∨
          ∃ other, node.at? ["phase"] = some (.string other) ∧ other ≠ "Pending") := by
  rw [← member?_eq_at? node (by decide)]
  cases node with
  | object members =>
    change (_ >>= _) = _ ↔ _
    rw [outcome_bind_ok]
    constructor
    · rintro ⟨given, hgiven, h⟩
      cases given with
      | none =>
        cases h
        exact .inr ⟨rfl, rfl, .inl (text_none.mp hgiven)⟩
      | some other =>
        split at h
        next heq =>
          cases heq
          cases h
          exact .inl ⟨text_some.mp hgiven, rfl⟩
        next hne =>
          cases h
          refine .inr ⟨rfl, rfl, .inr ⟨other, text_some.mp hgiven, ?_⟩⟩
          rintro rfl
          exact hne rfl
    · rintro (⟨pending, rfl⟩ | ⟨-, rfl, habsent | ⟨other, given, hne⟩⟩)
      · exact ⟨_, text_some.mpr pending, rfl⟩
      · exact ⟨_, text_none.mpr habsent, rfl⟩
      · refine ⟨_, text_some.mpr given, ?_⟩
        split
        next heq => exact absurd (Option.some.inj heq) hne
        next => rfl
  | null | bool | number | string | array =>
    refine ⟨fun h => (by cases h), ?_⟩
    rintro (⟨pending, -⟩ | ⟨object?, -⟩)
    · cases pending
    · cases object?

theorem ofWorkflow_tells (object : Json) (token : String) :
    ofWorkflow object = .ok ⟨token⟩ ↔ Tells .workflow object token := by
  unfold ofWorkflow
  rw [field_eq_at? object (by decide), field_eq_at? object (by decide), outcome_bind_ok]
  constructor
  · rintro ⟨given, hgiven, h⟩
    have own := workflowPhase_iff.mp ⟨given, hgiven, rfl⟩
    dsimp only at h
    generalize given.getD "Unknown" = phase at h own
    rcases present_cases (object.at? ["status", "nodes"]) with
      ⟨unset, habsent⟩ | ⟨j, hne, hnodes, hpresent⟩
    · rw [habsent] at h
      cases h
      exact .workflowAlone own (.inl unset)
    · rw [hpresent] at h
      cases j with
      | object nodes =>
        rcases nodes.eq_nil_or_concat' with rfl | ⟨earlier, ⟨name, node⟩, rfl⟩
        · cases h
          exact .workflowAlone own (.inr hnodes)
        · dsimp only at h
          rw [List.getLast?_concat] at h
          rcases ofNode_ok.mp h with ⟨pending, rfl⟩ | ⟨object?, rfl, other⟩
          · exact .workflowPending own hnodes pending
          · exact .workflowUnderway own hnodes object? other
      | null | bool | number | string | array => cases h
  · have inspect : ∀ {nodes : Table Json}, object.at? ["status", "nodes"] = some (.object nodes) →
        present (object.at? ["status", "nodes"]) = some (.object nodes) :=
      (present_some (by simp)).mpr
    intro told
    cases told with
    | workflowAlone own alone =>
      obtain ⟨given, hgiven, rfl⟩ := workflowPhase_iff.mpr own
      refine ⟨given, hgiven, ?_⟩
      rcases alone with unset | empty
      · rw [present_none.mpr unset]
        rfl
      · rw [inspect empty]
        rfl
    | workflowPending own inspected pending =>
      obtain ⟨given, hgiven, rfl⟩ := workflowPhase_iff.mpr own
      refine ⟨given, hgiven, ?_⟩
      rw [inspect inspected]
      dsimp only
      rw [List.getLast?_concat]
      exact ofNode_ok.mpr (.inl ⟨pending, rfl⟩)
    | workflowUnderway own inspected object? other =>
      obtain ⟨given, hgiven, rfl⟩ := workflowPhase_iff.mpr own
      refine ⟨given, hgiven, ?_⟩
      rw [inspect inspected]
      dsimp only
      rw [List.getLast?_concat]
      exact ofNode_ok.mpr (.inr ⟨object?, rfl, other⟩)

theorem ofBatch_tells (object : Json) (token : String) :
    ofBatch object = .ok ⟨token⟩ ↔ Tells .batch object token := by
  have hplace : ((field object "state").bind fun state => state.member? "phase") =
      object.at? ["status", "state", "phase"] := by
    have below := at?_append object ["status", "state"] ["phase"]
    rw [field_eq_at? object (by decide)]
    refine Eq.trans ?_ below.symm
    rcases present_cases (object.at? ["status", "state"]) with
      ⟨habsent | hnull, hpresent⟩ | ⟨state, -, hstate, hpresent⟩
    · rw [hpresent, habsent]
      rfl
    · rw [hpresent, hnull]
      rfl
    · rw [hpresent, hstate]
      exact member?_eq_at? state (by decide)
  unfold ofBatch
  rw [hplace, outcome_bind_ok]
  constructor
  · rintro ⟨given, hgiven, h⟩
    cases h
    cases given with
    | some phase => exact .statePhase (text_given.mp hgiven)
    | none => exact .noStatePhase (text_unset.mp hgiven)
  · intro told
    cases told with
    | statePhase given => exact ⟨_, text_given.mpr given, rfl⟩
    | noStatePhase unset => exact ⟨_, text_unset.mpr unset, rfl⟩

theorem isReadyCondition_iff {condition : Json} :
    isReadyCondition condition = true ↔ SaysReady condition := by
  have text?_eq : ∀ {value : Option Json} {s : String},
      (value.bind Json.text? == some s) = true ↔ value = some (.string s) := by
    intro value s
    rw [beq_iff_eq]
    cases value with
    | none => simp
    | some j => cases j <;> simp [Json.text?]
  rw [isReadyCondition, Bool.and_eq_true, text?_eq, text?_eq, member?_eq_at? _ (by decide),
    member?_eq_at? _ (by decide), SaysReady]

theorem ofServing_tells (object : Json) (token : String) :
    ofServing object = .ok ⟨token⟩ ↔ Tells .serving object token := by
  unfold ofServing
  rw [outcome_bind_ok]
  constructor
  · rintro ⟨items, hitems, h⟩
    cases items with
    | none =>
      cases h
      exact .unready (.inl (conditions_none.mp hitems))
    | some items =>
      have listed := conditions_some.mp hitems
      cases hready : items.any isReadyCondition with
      | true =>
        obtain ⟨condition, member, stated⟩ := List.any_eq_true.mp hready
        rw [Option.getD_some, hready] at h
        cases h
        exact .ready listed member (isReadyCondition_iff.mp stated)
      | false =>
        rw [Option.getD_some, hready] at h
        cases h
        refine .unready (.inr ⟨items, listed, fun condition member stated => ?_⟩)
        exact List.any_eq_false.mp hready condition member (isReadyCondition_iff.mpr stated)
  · intro told
    cases told with
    | ready listed member stated =>
      refine ⟨_, conditions_some.mpr listed, ?_⟩
      rw [Option.getD_some, List.any_eq_true.mpr ⟨_, member, isReadyCondition_iff.mpr stated⟩]
      rfl
    | unready unstated =>
      rcases unstated with unset | ⟨items, listed, none⟩
      · exact ⟨_, conditions_none.mpr unset, rfl⟩
      · refine ⟨_, conditions_some.mpr listed, ?_⟩
        rw [Option.getD_some, List.any_eq_false.mpr fun condition member stated =>
          none condition member (isReadyCondition_iff.mp stated)]
        rfl

/-! ### Normalisation -/

/-- A strategy reads the token that the object tells by it, and nothing if it tells none. -/
theorem read_tells (strategy : Strategy) (object : Json) (token : String) :
    strategy.read object = .ok ⟨token⟩ ↔ Tells strategy object token := by
  cases strategy with
  | general => exact ofGeneral_tells object token
  | workflow => exact ofWorkflow_tells object token
  | session => exact ofSession_tells object token
  | serving => exact ofServing_tells object token
  | batch => exact ofBatch_tells object token
  | custom read =>
    refine ⟨.custom, fun told => ?_⟩
    cases told with
    | custom reads => exact reads

theorem serving_unread {object : Json} :
    (∀ token, ¬Tells .serving object token) ↔
      ∃ value, object.at? ["status", "conditions"] = some value ∧ value ≠ .null ∧
        ∀ items, value ≠ .array items := by
  constructor
  · intro silent
    have unstated : ¬Unset object ["status", "conditions"] :=
      fun unset => silent _ (.unready (.inl unset))
    cases hvalue : object.at? ["status", "conditions"] with
    | none => exact absurd (.inl hvalue) unstated
    | some value =>
      refine ⟨value, rfl, fun hnull => unstated (.inr (hvalue.trans (congrArg some hnull))), ?_⟩
      rintro items rfl
      by_cases ready : ∃ condition ∈ items, SaysReady condition
      · obtain ⟨condition, member, stated⟩ := ready
        exact silent _ (.ready hvalue member stated)
      · refine silent _ (.unready (.inr ⟨items, hvalue, fun condition member stated => ?_⟩))
        exact ready ⟨condition, member, stated⟩
  · rintro ⟨value, hvalue, hne, unlisted⟩ token told
    cases told with
    | ready listed => exact unlisted _ (Option.some.inj (hvalue.symm.trans listed))
    | unready unstated =>
      rcases unstated with (habsent | hnull) | ⟨items, listed, -⟩
      · cases hvalue.symm.trans habsent
      · exact hne (Option.some.inj (hvalue.symm.trans hnull))
      · exact unlisted _ (Option.some.inj (hvalue.symm.trans listed))

/-- After any sequence of registrations an object of a kind is read by the strategy registered last
for the group and plural of the kind, else by the general one. The answer is the token that the
object tells by it, and an error if it tells none; by the serving strategy that is so exactly if
the conditions are there and no list. -/
theorem normalize_tells (entries : List Registration) (kind : Kind) (object : Json) :
    ∃ strategy, Selected entries kind strategy ∧
      (∀ token, (registered entries).normalize kind object = .ok ⟨token⟩ ↔
        Tells strategy object token) ∧
      ((∃ problem, (registered entries).normalize kind object =
          .error (.above (.statusShape kind problem) (Report.of problem))) ↔
        ∀ token, ¬Tells strategy object token) ∧
      (strategy = .serving →
        ((∀ token, ¬Tells strategy object token) ↔
          ∃ value, object.at? ["status", "conditions"] = some value ∧ value ≠ .null ∧
            ∀ items, value ≠ .array items)) := by
  refine ⟨_, selected_strategyFor entries kind, ?_⟩
  generalize hstrategy : (registered entries).strategyFor kind = strategy
  have hread : ∀ token, (registered entries).normalize kind object = .ok ⟨token⟩ ↔
      Tells strategy object token := by
    intro token
    rw [StatusRegistry.normalize, mapError_ok, hstrategy]
    exact read_tells strategy object token
  refine ⟨hread, ⟨?_, fun silent => ?_⟩, ?_⟩
  · rintro ⟨problem, refused⟩ token told
    cases refused.symm.trans ((hread token).mpr told)
  · cases answer : strategy.read object with
    | ok status => exact absurd ((read_tells _ _ _).mp answer) (silent status.token)
    | error problem =>
      refine ⟨problem, ?_⟩
      rw [StatusRegistry.normalize, hstrategy, answer]
      rfl
  · rintro rfl
    exact serving_unread

example : StatusRegistry.standard = registered
    [⟨"argoproj.io", "workflows", .workflow⟩, ⟨"kubeflow.org", "notebooks", .session⟩,
      ⟨"serving.kserve.io", "inferenceservices", .serving⟩,
      ⟨"batch.volcano.sh", "jobs", .batch⟩] := by
  rfl

end ClusterProvisioning.Proofs
