import ClusterProvisioning.Proofs.PortOverflow

/-!
# Runs of a cluster in memory

Whatever happens to a cluster, and in whatever order: a call that fails leaves the objects and the
count of node ports as they are, a call that stops leaves the objects, a call that succeeds changes
no object but its own, and its answer tells whether that object was there. A fault that is armed
lets as many calls pass as it was armed for, counted in the log of the cluster, and fails every
later one until it is armed anew or cleared (`run_lawful`).
-/

namespace ClusterProvisioning.Proofs
open Program MemoryCluster

/-- What can happen to a cluster: a call, a change of the faults, or an object or a status that is
written past the calls. -/
inductive ClusterAction where
  | call (made : GatewayCall)
  | failAfter (op : ObjectOp) (name : String) (successes : Nat)
  | clearFault (op : ObjectOp) (name : String)
  | clearFaults
  | insert (ns : String) (kind : Kind) (object : Json)
  | setStatus (target : Ref) (status : Json)

namespace ClusterAction

/-- The cluster after an action. A call that stops does not keep others from being made later. -/
def perform : ClusterAction → MemoryCluster → MemoryCluster
  | .call made, c =>
    match gateway.halt? made c with
    | some halt => halt.state
    | none => (gateway.answer made c).2
  | .failAfter op name successes, c => c.failAfter op name successes
  | .clearFault op name, c => c.clearFault op name
  | .clearFaults, c => c.clearFaults
  | .insert ns kind object, c => c.insertObject ns kind object
  | .setStatus target status, c => (c.setStatus target status).getD c

/-- The object that an action can change. -/
def key? : ClusterAction → Option Ref
  | .call made => touched made
  | .failAfter .. | .clearFault .. | .clearFaults => none
  | .insert ns kind object => some ⟨kind, ns, (Manifest.name? object).getD ""⟩
  | .setStatus target _ => some target

/-- The action neither arms nor clears the fault of an operation on objects of a name. -/
def Spares (op : ObjectOp) (name : String) : ClusterAction → Prop
  | .failAfter other text _ | .clearFault other text => (other, text) ≠ (op, name)
  | .clearFaults => False
  | .call _ | .insert .. | .setStatus .. => True

end ClusterAction

/-- The cluster after some actions. -/
def afterActions (actions : List ClusterAction) (c : MemoryCluster) : MemoryCluster :=
  actions.foldl (fun c action => action.perform c) c

/-- A call does what it does if it is answered, or it stops, and then it changes no object. -/
theorem perform_call (made : GatewayCall) (c : MemoryCluster) :
    ClusterAction.perform (.call made) c = (gateway.answer made c).2 ∨
      ∃ used, ClusterAction.perform (.call made) c =
        { (gateway.answer made c).2 with objects := c.objects, portsHandedOut := used } := by
  cases halts : gateway.halt? made c with
  | none =>
    left
    simp only [ClusterAction.perform, halts]
  | some halt =>
    obtain ⟨-, used, -, hstate⟩ := stopped_of_halt halts
    right
    exact ⟨used, by simp only [ClusterAction.perform, halts, hstate]⟩

/-- A call that stops is logged and counted by its fault like any other. -/
theorem perform_call_logged (made : GatewayCall) (c : MemoryCluster) :
    (ClusterAction.perform (.call made) c).calls = (gateway.answer made c).2.calls ∧
      (ClusterAction.perform (.call made) c).faults = (gateway.answer made c).2.faults := by
  rcases perform_call made c with h | ⟨used, h⟩ <;> rw [h] <;> exact ⟨rfl, rfl⟩

/-- A status is written into an object, and nothing happens where there is none. -/
theorem perform_setStatus (c : MemoryCluster) (target : Ref) (status : Json) :
    ClusterAction.perform (.setStatus target status) c = c ∨
      ∃ members, c.object? target = some (.object members) ∧
        ClusterAction.perform (.setStatus target status) c =
          { c with objects := c.objects.put target
                      ((Json.object members).withMember "status" status) } := by
  change (c.setStatus target status).getD c = c ∨ ∃ members, _ ∧
    (c.setStatus target status).getD c = _
  unfold MemoryCluster.setStatus
  split
  next members stored => exact .inr ⟨members, stored, rfl⟩
  next => exact .inl rfl

/-- What the answer of a call tells of its own object: a create found none under the name in its
manifest and answers with a reference to it, the other operations found one. -/
def FoundAs (c : MemoryCluster) : (call : GatewayCall) → call.Result → Prop
  | .create ns kind manifest, .ok made => ∃ name, Manifest.name? manifest = some name ∧
    made = ⟨kind, ns, name⟩ ∧ c.object? ⟨kind, ns, name⟩ = none
  | .get target, .ok object => c.object? target = some object
  | .delete target, .ok _ => c.object? target ≠ none
  | .update target _, .ok made => made = target ∧ c.object? target ≠ none
  | _, _ => True

/-- A call on a cluster is carried out as a whole or not at all. -/
structure Atomic (c : MemoryCluster) (call : GatewayCall) : Prop where
  stopped : ∀ halt, gateway.halt? call c = some halt → halt.state.objects = c.objects
  failed : ∀ report, (gateway.answer call c).1 = .error report →
    (gateway.answer call c).2.objects = c.objects ∧
      (gateway.answer call c).2.portsHandedOut = c.portsHandedOut
  framed : ∀ other, touched call ≠ some other →
    (gateway.answer call c).2.object? other = c.object? other
  found : FoundAs c call (gateway.answer call c).1

/-! ### Faults -/

/-- The operation and the object under which a call is logged. -/
def recorded? : GatewayCall → Option (ObjectOp × Ref)
  | .create ns kind manifest =>
    (Manifest.name? manifest).map fun name => (.create, ⟨kind, ns, name⟩)
  | .get target => some (.get, target)
  | .delete target => some (.delete, target)
  | .update target _ => some (.update, target)
  | .listNodes | .listPods _ => none

/-- A logged call is of an operation on an object of a name. -/
def calledOn (op : ObjectOp) (name : String) : LoggedCall → Bool
  | .object other target => other = op && target.name = name
  | .listNodes | .listPods _ => false

/-- The error of a fault that fires. -/
def injected (op : ObjectOp) (target : Ref) : Report GatewayError :=
  .of (.transport s!"injected {op} failure for {target}")

/-- A call stops, or is answered and carried out, as if the fault of an operation on objects of a
name were not armed, and if it fails, then not with a fault of the transport. -/
structure Escapes (c : MemoryCluster) (op : ObjectOp) (name : String) (call : GatewayCall) :
    Prop where
  stops : gateway.halt? call c = none ↔ gateway.halt? call (c.clearFault op name) = none
  answer : (gateway.answer call c).1 = (gateway.answer call (c.clearFault op name)).1
  objects : (gateway.answer call c).2.objects =
    (gateway.answer call (c.clearFault op name)).2.objects
  own : ∀ report, (gateway.answer call c).1 = .error report →
    ∀ problem, report.cause ≠ .transport problem

/-- An operation that leaves the log and the faults alone and depends on neither. It changes nothing
if it fails, and no fault of the transport is its own. -/
structure Unlogged {α : Type}
    (operate : MemoryCluster → Except (Report GatewayError) α × MemoryCluster) : Prop where
  failed : ∀ c report, (operate c).1 = .error report →
    (operate c).2 = c ∧ ∀ problem, report.cause ≠ .transport problem
  blind : ∀ c faults calls, operate { c with faults := faults, calls := calls } =
    ((operate c).1, { (operate c).2 with faults := faults, calls := calls })

section
variable {α : Type}

theorem unlogged_error (cause : GatewayError) (own : ∀ problem, cause ≠ .transport problem) :
    Unlogged fun c => ((.error (.of cause) : Except (Report GatewayError) α), c) where
  failed c report h := by
    cases h
    exact ⟨rfl, own⟩
  blind c faults calls := rfl

theorem unlogged_ok (a : α) : Unlogged fun c => (.ok a, c) where
  failed c report h := by cases h
  blind c faults calls := rfl

theorem unlogged_store (a : α) (target : Ref) (object : Json) :
    Unlogged fun c => (.ok a, c.store target object) where
  failed c report h := by cases h
  blind c faults calls := rfl

theorem unlogged_erase (a : α) (target : Ref) :
    Unlogged fun c => (.ok a, { c with objects := c.objects.erase target }) where
  failed c report h := by cases h
  blind c faults calls := rfl

/-- What is done may depend on the object that stands under a reference. -/
theorem unlogged_lookup (target : Ref)
    {found : Json → MemoryCluster → Except (Report GatewayError) α × MemoryCluster}
    {missing : MemoryCluster → Except (Report GatewayError) α × MemoryCluster}
    (hfound : ∀ object, Unlogged (found object)) (hmissing : Unlogged missing) :
    Unlogged fun c => match c.object? target with
      | some object => found object c
      | none => missing c where
  failed c report h := by
    cases stored : c.object? target with
    | some object =>
      rw [stored] at h
      exact (hfound object).failed c report h
    | none =>
      rw [stored] at h
      exact hmissing.failed c report h
  blind c faults calls := by
    have same : ({ c with faults := faults, calls := calls } : MemoryCluster).object? target =
      c.object? target := rfl
    rw [same]
    cases c.object? target with
    | some object => exact (hfound object).blind c faults calls
    | none => exact hmissing.blind c faults calls

end

/-- A call that is logged is carried out once its fault has let it through. -/
theorem answer_operates {call : GatewayCall} {op : ObjectOp} {target : Ref}
    (recorded : recorded? call = some (op, target)) :
    ∃ operate : MemoryCluster → call.Result × MemoryCluster, Unlogged operate ∧
      ∀ c, gateway.answer call c = match c.record op target with
        | (.error report, d) => (.error report, d)
        | (.ok (), d) => operate d := by
  have missing : ∀ other, GatewayError.notFound target ≠ .transport other :=
    fun _ h => (by cases h)
  cases call with
  | create ns kind manifest =>
    obtain ⟨name, named, heq⟩ := Option.map_eq_some_iff.mp recorded
    cases heq
    refine ⟨_, unlogged_lookup ⟨kind, ns, name⟩
      (fun _ => unlogged_error (.alreadyExists ⟨kind, ns, name⟩) fun _ h => (by cases h))
      (unlogged_store ⟨kind, ns, name⟩ ⟨kind, ns, name⟩ (Manifest.placedIn ns manifest)), ?_⟩
    intro c
    change c.create ns kind manifest = _
    unfold MemoryCluster.create
    split
    next unnamed => cases unnamed.symm.trans named
    next other found =>
      obtain rfl := Option.some.inj (found.symm.trans named)
      rfl
  | get other =>
    cases recorded
    exact ⟨_, unlogged_lookup target unlogged_ok (unlogged_error _ missing), fun c => rfl⟩
  | delete other =>
    cases recorded
    exact ⟨_, unlogged_lookup target (fun _ => unlogged_erase () target) (unlogged_error _ missing),
      fun c => rfl⟩
  | update other manifest =>
    cases recorded
    exact ⟨_, unlogged_lookup target (fun stored => unlogged_store target target
      (withStatusOf stored manifest)) (unlogged_error _ missing), fun c => rfl⟩
  | listNodes => cases recorded
  | listPods node => cases recorded

/-! ### The log and the faults -/

/-- The fault of an operation on objects of a name has counted a call. -/
def CountsDown (op : ObjectOp) (name : String) (before after : Assoc (ObjectOp × String) Nat) :
    Prop :=
  ∀ fault, after.get? fault =
    if fault = (op, name) then (before.get? fault).map (· - 1) else before.get? fault

/-- A call that is logged is counted by its fault, and fails if that is spent. -/
theorem record_counts (c : MemoryCluster) (op : ObjectOp) (target : Ref) :
    ∃ faults, CountsDown op target.name c.faults faults ∧ c.record op target =
      (if c.faults.get? (op, target.name) = some 0 then .error (injected op target) else .ok (),
        { c with faults := faults, calls := c.calls ++ [.object op target] }) := by
  -- A fault that has nothing left to count stays as it is.
  have still : ∀ left, c.faults.get? (op, target.name) = left → left.map (· - 1) = left →
      CountsDown op target.name c.faults c.faults := by
    intro left hleft same fault
    split
    next heq => rw [heq, hleft, same]
    next => rfl
  unfold MemoryCluster.record
  dsimp only
  split
  next spent => exact ⟨c.faults, still _ spent rfl, by rw [if_pos spent]; rfl⟩
  next left armed =>
    refine ⟨_, fun fault => ?_, by rw [if_neg (by rw [armed]; simp)]⟩
    split
    next heq => rw [heq, armed, Assoc.get?_put_self]; rfl
    next hne => exact Assoc.get?_put_of_ne _ _ (Ne.symm hne)
  next unarmed => exact ⟨c.faults, still _ unarmed rfl, by rw [if_neg (by rw [unarmed]; simp)]⟩

/-- A call that is logged fails with its fault if that is spent, and else it is carried out. -/
theorem answer_recorded {call : GatewayCall} {op : ObjectOp} {target : Ref}
    (recorded : recorded? call = some (op, target)) :
    ∃ operate : MemoryCluster → call.Result × MemoryCluster, Unlogged operate ∧
      ∀ c, ∃ faults, CountsDown op target.name c.faults faults ∧ gateway.answer call c =
        if c.faults.get? (op, target.name) = some 0 then
          (.error (injected op target),
            { c with faults := faults, calls := c.calls ++ [.object op target] })
        else
          ((operate c).1,
            { (operate c).2 with faults := faults, calls := c.calls ++ [.object op target] }) := by
  obtain ⟨operate, unlogged, hanswer⟩ := answer_operates recorded
  refine ⟨operate, unlogged, fun c => ?_⟩
  obtain ⟨faults, counted, hrecord⟩ := record_counts c op target
  refine ⟨faults, counted, ?_⟩
  rw [hanswer c, hrecord]
  by_cases spent : c.faults.get? (op, target.name) = some 0
  · rw [if_pos spent, if_pos spent]
  · rw [if_neg spent, if_neg spent]
    exact unlogged.blind c faults _

/-- What a logged call leaves of the log and the faults, whether it fails or not. -/
theorem answer_logged {call : GatewayCall} {op : ObjectOp} {target : Ref}
    (recorded : recorded? call = some (op, target)) (c : MemoryCluster) :
    (gateway.answer call c).2.calls = c.calls ++ [.object op target] ∧
      CountsDown op target.name c.faults (gateway.answer call c).2.faults := by
  obtain ⟨operate, -, hanswer⟩ := answer_recorded recorded
  obtain ⟨faults, counted, hstate⟩ := hanswer c
  rw [hstate]
  split <;> exact ⟨rfl, counted⟩

/-- A call that is not logged is refused for its manifest, or only lists. -/
theorem answer_unlogged {call : GatewayCall} (unrecorded : recorded? call = none)
    (c : MemoryCluster) :
    ∃ added, (gateway.answer call c).2 = { c with calls := c.calls ++ added } ∧
      ∀ op name, added.countP (calledOn op name) = 0 := by
  cases call with
  | create ns kind manifest =>
    have unnamed : Manifest.name? manifest = none := Option.map_eq_none_iff.mp unrecorded
    refine ⟨[], ?_, fun op name => rfl⟩
    change (c.create ns kind manifest).2 = _
    rw [MemoryCluster.create, unnamed, List.append_nil]
  | listNodes =>
    refine ⟨[.listNodes], ?_, fun op name => rfl⟩
    change c.listNodes.2 = _
    unfold MemoryCluster.listNodes
    dsimp only
    split <;> rfl
  | listPods node =>
    refine ⟨[.listPods node], ?_, fun op name => rfl⟩
    change (c.listPods node).2 = _
    unfold MemoryCluster.listPods
    dsimp only
    split <;> rfl
  | get target => cases unrecorded
  | delete target => cases unrecorded
  | update target manifest => cases unrecorded

/-- An armed fault counts down the calls that are logged under it, and nothing else. -/
theorem perform_counts {c : MemoryCluster} {op : ObjectOp} {name : String} {left : Nat}
    (armed : c.faults.get? (op, name) = some left) {action : ClusterAction}
    (spares : action.Spares op name) :
    ∃ added, (action.perform c).calls = c.calls ++ added ∧
      (action.perform c).faults.get? (op, name) =
        some (left - added.countP (calledOn op name)) := by
  -- What does not log anything leaves the fault as it is.
  have kept : ∀ d : MemoryCluster, d.calls = c.calls → d.faults.get? (op, name) = some left →
      ∃ added, d.calls = c.calls ++ added ∧
        d.faults.get? (op, name) = some (left - added.countP (calledOn op name)) :=
    fun d hcalls hfaults => ⟨[], by rw [hcalls, List.append_nil], hfaults⟩
  cases action with
  | call made =>
    obtain ⟨hlog, hcounted⟩ := perform_call_logged made c
    rw [hlog, hcounted]
    cases hrecorded : recorded? made with
    | none =>
      obtain ⟨added, hstate, hcount⟩ := answer_unlogged hrecorded c
      refine ⟨added, congrArg MemoryCluster.calls hstate, ?_⟩
      rw [hcount]
      exact (congrArg (fun d => d.faults.get? (op, name)) hstate).trans armed
    | some entry =>
      obtain ⟨other, target⟩ := entry
      obtain ⟨hcalls, hfaults⟩ := answer_logged hrecorded c
      refine ⟨_, hcalls, (hfaults (op, name)).trans ?_⟩
      by_cases own : (op, name) = (other, target.name)
      · obtain ⟨rfl, rfl⟩ := Prod.mk.inj own
        rw [if_pos rfl, armed]
        simp [calledOn]
      · have missed : calledOn op name (.object other target) = false := by
          rw [Prod.mk.injEq, not_and] at own
          simp only [calledOn, Bool.and_eq_false_iff, decide_eq_false_iff_not]
          by_cases h : op = other
          · exact .inr fun heq => own h heq.symm
          · exact .inl fun heq => h heq.symm
        rw [if_neg own, armed]
        simp [missed]
  | failAfter other text successes =>
    exact kept (c.failAfter other text successes) rfl
      ((Assoc.get?_put_of_ne _ _ spares).trans armed)
  | clearFault other text =>
    exact kept (c.clearFault other text) rfl ((Assoc.get?_erase_of_ne _ spares).trans armed)
  | clearFaults => exact spares.elim
  | insert ns kind object => exact kept (c.insertObject ns kind object) rfl armed
  | setStatus target status =>
    rcases perform_setStatus c target status with h | ⟨members, -, h⟩ <;> rw [h]
    · exact kept c rfl armed
    · exact kept _ rfl armed

/-- By induction on the actions: what is left of a fault is what it was armed for, less the calls
that were logged under it since. -/
theorem afterActions_counts {actions : List ClusterAction} {c : MemoryCluster} {op : ObjectOp}
    {name : String} {left : Nat} (armed : c.faults.get? (op, name) = some left)
    (spares : ∀ action ∈ actions, action.Spares op name) :
    ∃ since, (afterActions actions c).calls = c.calls ++ since ∧
      (afterActions actions c).faults.get? (op, name) =
        some (left - since.countP (calledOn op name)) := by
  induction actions generalizing c left with
  | nil => exact ⟨[], (List.append_nil _).symm, armed⟩
  | cons action rest ih =>
    obtain ⟨haction, hrest⟩ := List.forall_mem_cons.mp spares
    obtain ⟨added, hcalls, hleft⟩ := perform_counts armed haction
    obtain ⟨since, hsince, hfault⟩ := ih hleft hrest
    refine ⟨added ++ since, ?_, ?_⟩
    · rw [← List.append_assoc, ← hcalls]
      exact hsince
    · rw [List.countP_append, ← Nat.sub_sub]
      exact hfault

/-! ### Logged calls under a fault -/

section
variable {call : GatewayCall} {op : ObjectOp} {target : Ref} {c : MemoryCluster}

theorem answer_fires (recorded : recorded? call = some (op, target))
    (spent : c.faults.get? (op, target.name) = some 0) :
    gateway.halt? call c = none ∧ (gateway.answer call c).1 = .error (injected op target) := by
  obtain ⟨operate, -, hanswer⟩ := answer_recorded recorded
  obtain ⟨faults, -, hstate⟩ := hanswer c
  have fires : (gateway.answer call c).1 = .error (injected op target) := by
    rw [hstate, if_pos spent]
  refine ⟨?_, fires⟩
  rw [halt?_none_iff, fires]
  exact .inl (portsAsked_error call _)

theorem answer_escapes (recorded : recorded? call = some (op, target))
    (unspent : c.faults.get? (op, target.name) ≠ some 0) : Escapes c op target.name call := by
  obtain ⟨operate, unlogged, hanswer⟩ := answer_recorded recorded
  have cleared : (c.clearFault op target.name).faults.get? (op, target.name) ≠ some 0 := by
    change (Assoc.erase c.faults (op, target.name)).get? (op, target.name) ≠ some 0
    rw [Assoc.get?_erase_self]
    exact (Option.some_ne_none 0).symm
  have same : operate (c.clearFault op target.name) = ((operate c).1,
      { (operate c).2 with faults := c.faults.erase (op, target.name), calls := c.calls }) :=
    unlogged.blind c _ _
  obtain ⟨faults, -, hc⟩ := hanswer c
  obtain ⟨others, -, hcleared⟩ := hanswer (c.clearFault op target.name)
  rw [if_neg unspent] at hc
  rw [if_neg cleared, same] at hcleared
  have answers : (gateway.answer call c).1 =
      (gateway.answer call (c.clearFault op target.name)).1 := by
    rw [hc, hcleared]
  refine ⟨?_, answers, ?_, ?_⟩
  · rw [halt?_none_iff, halt?_none_iff, answers]
    rfl
  · rw [hc, hcleared]
  · rw [hc]
    exact fun report h => (unlogged.failed c report h).2

end

/-! ### Single actions -/

theorem object?_put (c : MemoryCluster) (target other : Ref) (object : Json) :
    ({ c with objects := c.objects.put target object } : MemoryCluster).object? other =
      if other = target then some object else c.object? other := by
  by_cases own : other = target
  · rw [if_pos own, own]
    exact Assoc.get?_put_self _ _ _
  · rw [if_neg own]
    exact Assoc.get?_put_of_ne _ _ (Ne.symm own)

theorem answer_failed {c : MemoryCluster} {call : GatewayCall} {report : Report GatewayError}
    (failed : (gateway.answer call c).1 = .error report) :
    (gateway.answer call c).2.objects = c.objects ∧
      (gateway.answer call c).2.portsHandedOut = c.portsHandedOut := by
  cases hrecorded : recorded? call with
  | none =>
    obtain ⟨added, hstate, -⟩ := answer_unlogged hrecorded c
    rw [hstate]
    exact ⟨rfl, rfl⟩
  | some entry =>
    obtain ⟨op, target⟩ := entry
    obtain ⟨operate, unlogged, hanswer⟩ := answer_recorded hrecorded
    obtain ⟨faults, -, hstate⟩ := hanswer c
    rw [hstate] at failed ⊢
    split
    · exact ⟨rfl, rfl⟩
    next unspent =>
      rw [if_neg unspent] at failed
      dsimp only at failed ⊢
      rw [(unlogged.failed c report failed).1]
      exact ⟨rfl, rfl⟩

theorem delete_found {c d : MemoryCluster} {target : Ref}
    (answer : c.delete target = (.ok (), d)) : c.object? target ≠ none := by
  unfold MemoryCluster.delete at answer
  rcases record_cases c .delete target with
    ⟨report, faults, calls, -, hrecord⟩ | ⟨faults, calls, hrecord⟩
  · rw [hrecord] at answer
    cases answer
  · rw [hrecord] at answer
    dsimp only at answer
    split at answer
    next stored present => exact fun absent => Option.some_ne_none _ (present.symm.trans absent)
    next => cases answer

theorem answer_found (c : MemoryCluster) (call : GatewayCall) :
    FoundAs c call (gateway.answer call c).1 := by
  cases call with
  | create ns kind manifest =>
    change FoundAs c (.create ns kind manifest) (c.create ns kind manifest).1
    cases named : Manifest.name? manifest with
    | none =>
      rw [MemoryCluster.create, named]
      trivial
    | some name =>
      rcases create_cases c ns kind named with ⟨report, herror, -⟩ | ⟨hmade, absent, -⟩
      · rw [herror]
        trivial
      · rw [hmade]
        exact ⟨name, named, rfl, absent⟩
  | get target =>
    change FoundAs c (.get target) (c.get target).1
    rcases hget : c.get target with ⟨_ | object, d⟩
    · trivial
    · exact (get_found hget).1
  | delete target =>
    change FoundAs c (.delete target) (c.delete target).1
    rcases hdelete : c.delete target with ⟨_ | _, d⟩
    · trivial
    · exact delete_found hdelete
  | update target manifest =>
    change FoundAs c (.update target manifest) (c.update target manifest).1
    rcases update_cases c target manifest with ⟨report, herror, -⟩ | ⟨stored, hok, hfound, -⟩
    · rw [herror]
      trivial
    · rw [hok]
      exact ⟨rfl, fun absent => Option.some_ne_none _ (hfound.symm.trans absent)⟩
  | listNodes => trivial
  | listPods node => trivial

theorem answer_atomic (c : MemoryCluster) (call : GatewayCall) : Atomic c call where
  stopped _ halts := by
    obtain ⟨-, used, -, hstate⟩ := stopped_of_halt halts
    rw [hstate]
  failed _ := answer_failed
  framed _ := answer_frame c
  found := answer_found c call

/-- An action leaves every object but its own. -/
theorem perform_frame (c : MemoryCluster) {action : ClusterAction} {other : Ref}
    (h : action.key? ≠ some other) : (action.perform c).object? other = c.object? other := by
  cases action with
  | call made =>
    rcases perform_call made c with hstate | ⟨used, hstate⟩ <;> rw [hstate]
    · exact answer_frame c h
    · rfl
  | failAfter | clearFault | clearFaults => rfl
  | insert ns kind object =>
    exact (object?_put c _ other object).trans (if_neg fun heq => h (congrArg some heq.symm))
  | setStatus target status =>
    rcases perform_setStatus c target status with hstate | ⟨members, -, hstate⟩ <;> rw [hstate]
    rw [object?_put]
    exact if_neg fun heq => h (congrArg some heq.symm)

theorem afterActions_frame {actions : List ClusterAction} (c : MemoryCluster) {other : Ref}
    (h : ∀ action ∈ actions, action.key? ≠ some other) :
    (afterActions actions c).object? other = c.object? other := by
  induction actions generalizing c with
  | nil => rfl
  | cons action rest ih =>
    obtain ⟨haction, hrest⟩ := List.forall_mem_cons.mp h
    exact (ih (action.perform c) hrest).trans (perform_frame c haction)

/-! ### Runs -/

/-- After any actions on any cluster a call is carried out as a whole or not at all, and an object
that none of the actions is about is as it was. From the moment that a fault is armed and until it
is armed anew or cleared, as many of the calls that are logged under it as it was armed for escape
it, and every later one fails with it, whatever else happens in between. -/
theorem run_lawful (c : MemoryCluster) (earlier : List ClusterAction) :
    (∀ call, Atomic (afterActions earlier c) call) ∧
      (∀ other, (∀ action ∈ earlier, action.key? ≠ some other) →
        (afterActions earlier c).object? other = c.object? other) ∧
      ∀ op target successes between call,
        (∀ action ∈ between, action.Spares op target.name) →
        recorded? call = some (op, target) →
        let armed := (afterActions earlier c).failAfter op target.name successes
        let before := afterActions between armed
        ∃ since, before.calls = armed.calls ++ since ∧
          if since.countP (calledOn op target.name) < successes then
            Escapes before op target.name call
          else gateway.halt? call before = none ∧
            (gateway.answer call before).1 = .error (injected op target) := by
  refine ⟨answer_atomic _, fun other => afterActions_frame c, ?_⟩
  intro op target successes between call spares recorded armed before
  have start : armed.faults.get? (op, target.name) = some successes := Assoc.get?_put_self _ _ _
  obtain ⟨since, hcalls, hleft⟩ := afterActions_counts start spares
  refine ⟨since, hcalls, ?_⟩
  split
  next left =>
    apply answer_escapes recorded
    rw [hleft, Ne, Option.some.injEq]
    omega
  next spent =>
    apply answer_fires recorded
    rw [hleft, Option.some.injEq]
    omega

/-- Two pods of one name in two namespaces. -/
def namesakePods : List ClusterAction :=
  [.insert "lab" .pod (.object [("metadata", .object [("name", .string "ada")])]),
    .insert "home" .pod (.object [("metadata", .object [("name", .string "ada")])])]

/-- A delete of a service of that name, which is not there, and a look at one of the pods. -/
def callsInBetween : List ClusterAction :=
  [.call (.delete ⟨.service, "lab", "ada"⟩), .call (.get ⟨.pod, "lab", "ada"⟩)]

/-- The delete of a missing namesake uses up the one delete that passes. -/
theorem run_lawful_namesakes :
    let armed := (afterActions namesakePods .empty).failAfter .delete "ada" 1
    let before := afterActions callsInBetween armed
    (∀ action ∈ namesakePods, action.key? ≠ some ⟨.pod, "work", "ada"⟩) ∧
      (∀ action ∈ callsInBetween, action.Spares .delete "ada") ∧
      recorded? (.delete ⟨.pod, "home", "ada"⟩) = some (.delete, ⟨.pod, "home", "ada"⟩) ∧
      (afterActions namesakePods .empty).object? ⟨.pod, "work", "ada"⟩ = none ∧
      (gateway.answer (.delete ⟨.pod, "home", "ada"⟩) before).1 =
        .error (injected .delete ⟨.pod, "home", "ada"⟩) ∧
      (gateway.answer (.delete ⟨.pod, "home", "ada"⟩) before).2.objects = before.objects := by
  intro armed before
  have keys : ∀ action ∈ namesakePods, action.key? ≠ some ⟨.pod, "work", "ada"⟩ := by
    decide
  have spares : ∀ action ∈ callsInBetween, action.Spares .delete "ada" := by
    simp [callsInBetween, ClusterAction.Spares]
  have recorded : recorded? (.delete ⟨.pod, "home", "ada"⟩) =
      some (.delete, ⟨.pod, "home", "ada"⟩) := rfl
  obtain ⟨-, framed, counted⟩ := run_lawful .empty namesakePods
  obtain ⟨since, hcalls, fires⟩ := counted .delete ⟨.pod, "home", "ada"⟩ 1 callsInBetween
    (.delete ⟨.pod, "home", "ada"⟩) spares recorded
  have log : before.calls = armed.calls ++
      [.object .delete ⟨.service, "lab", "ada"⟩, .object .get ⟨.pod, "lab", "ada"⟩] := rfl
  obtain rfl := List.append_cancel_left (hcalls.symm.trans log)
  rw [if_neg (by decide)] at fires
  have atomic := (run_lawful armed callsInBetween).1 (.delete ⟨.pod, "home", "ada"⟩)
  exact ⟨keys, spares, recorded, framed _ keys, fires.2, (atomic.failed _ fires.2).1⟩

end ClusterProvisioning.Proofs
