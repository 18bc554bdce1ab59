import ClusterProvisioning.Gateway.Program

/-!
# Traces of programs

A program settles which calls it makes and how it goes on from each answer; a gateway settles the
answers. `Traces p events a` says that `p` can do `events` and end with `a` when the answers are
those in `events`. `Serves g s events s'` says that a gateway gives these answers on its way from
one state to another. A run is the two together (`run_eq_iff`), so a fact about the traces of a
program holds on every gateway.
-/

namespace ClusterProvisioning.Proofs
open Program

variable {α β σ : Type}

/-- The program can do these events, in this order, and end with this value. -/
def Traces : Program α → List Event → α → Prop
  | .done value, events, a => events = [] ∧ a = value
  | .call c next, events, a =>
    ∃ (result : c.Result) (rest : List Event), events = .call c result :: rest ∧
      Traces (next result) rest a
  | .audit event next, events, a => ∃ rest, events = .audit event :: rest ∧ Traces next rest a

/-- The gateway answers as in these events when it is asked from the first state on, and the last
answer leaves the second state. -/
def Serves (g : Gateway σ) : σ → List Event → σ → Prop
  | s, [], s' => s' = s
  | s, .call c result :: rest, s' => ∃ next, g.answer c s = (result, next) ∧ Serves g next rest s'
  | s, .audit _ :: rest, s' => Serves g s rest s'

/-- No call of these events stops the gateway that is asked from this state on. -/
def Unhalted (g : Gateway σ) : σ → List Event → Prop
  | _, [] => True
  | s, .call c _ :: rest => g.halt? c s = none ∧ Unhalted g (g.answer c s).2 rest
  | s, .audit _ :: rest => Unhalted g s rest

/-- The call only lists nodes or pods. -/
def Lists : GatewayCall → Prop
  | .listNodes | .listPods _ => True
  | .create .. | .get _ | .delete _ | .update .. => False

/-- An answer to a delete after which nothing stands under the name: the object was deleted, or
there was none. -/
def Settles : Except (Report GatewayError) Unit → Prop
  | .ok () => True
  | .error report => report.cause.isNotFound = true

/-! ### Traces of composed programs -/

theorem traces_perform_bind (c : GatewayCall) (f : c.Result → Program β) (events : List Event)
    (b : β) :
    Traces (perform c >>= f) events b ↔
      ∃ result rest, events = .call c result :: rest ∧ Traces (f result) rest b :=
  Iff.rfl

theorem traces_record_bind (action : AuditAction) (target : Ref) (f : Unit → Program β)
    (events : List Event) (b : β) :
    Traces (record action target >>= f) events b ↔
      ∃ rest, events = .audit ⟨action, target⟩ :: rest ∧ Traces (f ()) rest b :=
  Iff.rfl

theorem traces_bind (p : Program α) (f : α → Program β) (events : List Event) (b : β) :
    Traces (p >>= f) events b ↔
      ∃ a first second, events = first ++ second ∧ Traces p first a ∧ Traces (f a) second b := by
  change Traces (p.bind f) events b ↔ _
  induction p generalizing events with
  | done value =>
    constructor
    · intro h
      exact ⟨value, [], events, rfl, ⟨rfl, rfl⟩, h⟩
    · rintro ⟨a, first, second, rfl, ⟨rfl, rfl⟩, h⟩
      exact h
  | call c next ih =>
    constructor
    · rintro ⟨result, rest, rfl, h⟩
      obtain ⟨a, first, second, rfl, hp, hf⟩ := (ih result rest).mp h
      exact ⟨a, .call c result :: first, second, rfl, ⟨result, first, rfl, hp⟩, hf⟩
    · rintro ⟨a, first, second, rfl, ⟨result, rest, rfl, hp⟩, hf⟩
      exact ⟨result, rest ++ second, rfl, (ih result _).mpr ⟨a, rest, second, rfl, hp, hf⟩⟩
  | audit event next ih =>
    constructor
    · rintro ⟨rest, rfl, h⟩
      obtain ⟨a, first, second, rfl, hp, hf⟩ := (ih rest).mp h
      exact ⟨a, .audit event :: first, second, rfl, ⟨first, rfl, hp⟩, hf⟩
    · rintro ⟨a, first, second, rfl, ⟨rest, rfl, hp⟩, hf⟩
      exact ⟨rest ++ second, rfl, (ih _).mpr ⟨a, rest, second, rfl, hp, hf⟩⟩

/-! ### Runs -/

theorem serves_append (g : Gateway σ) (s s' : σ) (first second : List Event) :
    Serves g s (first ++ second) s' ↔
      ∃ middle, Serves g s first middle ∧ Serves g middle second s' := by
  induction first generalizing s with
  | nil =>
    constructor
    · intro h
      exact ⟨s, rfl, h⟩
    · rintro ⟨middle, rfl, h⟩
      exact h
  | cons event rest ih =>
    cases event with
    | call c result =>
      constructor
      · rintro ⟨next, hanswer, h⟩
        obtain ⟨middle, hfirst, hsecond⟩ := (ih next).mp h
        exact ⟨middle, ⟨next, hanswer, hfirst⟩, hsecond⟩
      · rintro ⟨middle, ⟨next, hanswer, hfirst⟩, hsecond⟩
        exact ⟨next, hanswer, (ih next).mpr ⟨middle, hfirst, hsecond⟩⟩
    | audit event => exact ih s

/-- A run is a trace of the program that the gateway serves. -/
theorem run_eq_iff (g : Gateway σ) (p : Program α) (s s' : σ) (a : α) (events : List Event) :
    p.run g s = (a, s', events) ↔ Traces p events a ∧ Serves g s events s' := by
  induction p generalizing s events with
  | done value =>
    simp only [run, Traces, Prod.mk.injEq]
    constructor
    · rintro ⟨rfl, rfl, rfl⟩
      exact ⟨⟨rfl, rfl⟩, rfl⟩
    · rintro ⟨⟨rfl, rfl⟩, h⟩
      exact ⟨rfl, h.symm, rfl⟩
  | call c next ih =>
    simp only [run, Prod.mk.injEq]
    constructor
    · rintro ⟨rfl, rfl, rfl⟩
      have hrest := (ih (g.answer c s).1 (g.answer c s).2 _).mp rfl
      exact ⟨⟨_, _, rfl, hrest.1⟩, _, rfl, hrest.2⟩
    · rintro ⟨⟨result, rest, rfl, htrace⟩, state, hanswer, hserve⟩
      have hrest := (ih result state rest).mpr ⟨htrace, hserve⟩
      simp only [hanswer, hrest, and_self]
  | audit event next ih =>
    simp only [run, Prod.mk.injEq]
    constructor
    · rintro ⟨rfl, rfl, rfl⟩
      have hrest := (ih s _).mp rfl
      exact ⟨⟨_, rfl, hrest.1⟩, hrest.2⟩
    · rintro ⟨⟨rest, rfl, htrace⟩, hserve⟩
      have hrest := (ih s rest).mpr ⟨htrace, hserve⟩
      simp only [hrest, and_self]

/-- A program ends as in its run if no call of the run stops. -/
theorem exec_eq_ok_iff (g : Gateway σ) (p : Program α) (s s' : σ) (a : α) (events : List Event) :
    p.exec g s = (.ok a, s', events) ↔ p.run g s = (a, s', events) ∧ Unhalted g s events := by
  induction p generalizing s events with
  | done value =>
    simp only [exec, run, Prod.mk.injEq, Except.ok.injEq]
    constructor
    · rintro ⟨rfl, rfl, rfl⟩
      exact ⟨⟨rfl, rfl, rfl⟩, trivial⟩
    · exact And.left
  | call c next ih =>
    cases halts : g.halt? c s with
    | some halt =>
      simp only [exec, run, halts, Prod.mk.injEq, reduceCtorEq, false_and, false_iff]
      rintro ⟨⟨-, -, rfl⟩, unhalted⟩
      cases halts.symm.trans unhalted.1
    | none =>
      simp only [exec, run, halts, Prod.mk.injEq]
      constructor
      · rintro ⟨hvalue, rfl, rfl⟩
        obtain ⟨hrun, unhalted⟩ := (ih _ _ _).mp (Prod.ext hvalue rfl)
        rw [hrun]
        exact ⟨⟨rfl, rfl, rfl⟩, halts, unhalted⟩
      · rintro ⟨⟨rfl, rfl, rfl⟩, unhalted⟩
        have hexec := (ih (g.answer c s).1 (g.answer c s).2 _).mpr ⟨rfl, unhalted.2⟩
        rw [hexec]
        exact ⟨rfl, rfl, rfl⟩
  | audit event next ih =>
    simp only [exec, run, Prod.mk.injEq]
    constructor
    · rintro ⟨hvalue, rfl, rfl⟩
      obtain ⟨hrun, unhalted⟩ := (ih _ _).mp (Prod.ext hvalue rfl)
      rw [hrun]
      exact ⟨⟨rfl, rfl, rfl⟩, unhalted⟩
    · rintro ⟨⟨rfl, rfl, rfl⟩, unhalted⟩
      rw [(ih s _).mpr ⟨rfl, unhalted⟩]
      exact ⟨rfl, rfl, rfl⟩

theorem run_bind (g : Gateway σ) (p : Program α) (f : α → Program β) (s : σ) :
    (p >>= f).run g s =
      let (a, t, first) := p.run g s
      let (b, t, second) := (f a).run g t
      (b, t, first ++ second) := by
  change (p.bind f).run g s = _
  induction p generalizing s with
  | done value => rfl
  | call c next ih => simp only [Program.bind, run, ih, List.cons_append]
  | audit event next ih => simp only [Program.bind, run, ih, List.cons_append]

/-! ### Trails -/

theorem callTrail_append (first second : List Event) :
    callTrail (first ++ second) = callTrail first ++ callTrail second :=
  List.filterMap_append

theorem mem_callTrail {c : GatewayCall} {events : List Event} :
    c ∈ callTrail events ↔ ∃ result : c.Result, .call c result ∈ events := by
  simp only [callTrail, List.mem_filterMap]
  constructor
  · rintro ⟨event, hmem, hsome⟩
    cases event with
    | call d result =>
      obtain rfl : d = c := Option.some.inj hsome
      exact ⟨result, hmem⟩
    | audit event => cases hsome
  · rintro ⟨result, hmem⟩
    exact ⟨_, hmem, rfl⟩

/-- What every answer to the calls of some events keeps is kept when they are served. -/
theorem serves_preserves {g : Gateway σ} {s s' : σ} {events : List Event} (kept : σ → Prop)
    (step : ∀ c ∈ callTrail events, ∀ t, kept t → kept (g.answer c t).2)
    (served : Serves g s events s') (start : kept s) : kept s' := by
  induction events generalizing s with
  | nil =>
    obtain rfl : s' = s := served
    exact start
  | cons event rest ih =>
    cases event with
    | call c result =>
      obtain ⟨next, hanswer, hrest⟩ := served
      have hnext : kept next := by
        have h := step c (mem_callTrail.mpr ⟨result, List.mem_cons_self⟩) s start
        rwa [hanswer] at h
      exact ih (fun d hd => step d (List.mem_cons_of_mem c hd)) hrest hnext
    | audit event => exact ih step served start

/-- Every answer among the events was given in a state with what the answers keep. -/
theorem serves_mem_kept {g : Gateway σ} {s s' : σ} {events : List Event} {c : GatewayCall}
    {result : c.Result} (kept : σ → Prop)
    (step : ∀ c ∈ callTrail events, ∀ t, kept t → kept (g.answer c t).2)
    (served : Serves g s events s') (start : kept s) (h : .call c result ∈ events) :
    ∃ t, kept t ∧ (g.answer c t).1 = result := by
  obtain ⟨earlier, later, rfl⟩ := List.mem_iff_append.mp h
  obtain ⟨t, hearlier, next, hanswer, -⟩ := (serves_append _ _ _ _ _).mp served
  refine ⟨t, serves_preserves kept (fun d hd => step d ?_) hearlier start, ?_⟩
  · rw [callTrail_append]
    exact List.mem_append_left _ hd
  · exact congrArg Prod.fst hanswer

theorem serves_mem {g : Gateway σ} {s s' : σ} {events : List Event} {c : GatewayCall}
    {result : c.Result} (served : Serves g s events s') (h : .call c result ∈ events) :
    ∃ t, (g.answer c t).1 = result := by
  obtain ⟨t, -, hanswer⟩ :=
    serves_mem_kept (fun _ => True) (fun _ _ _ _ => trivial) served trivial h
  exact ⟨t, hanswer⟩

end ClusterProvisioning.Proofs
