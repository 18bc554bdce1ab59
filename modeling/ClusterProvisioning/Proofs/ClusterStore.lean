import ClusterProvisioning.Gateway.Memory
import ClusterProvisioning.Proofs.ProgramTrace

/-!
# The objects of a cluster in memory

What the calls of a cluster in memory do to its objects: which object a call can touch, that all
others stay (`serves_frame`), and what the answer of a create or a delete says about the object
under its own name. Faults decide only which answer it is.
-/

namespace ClusterProvisioning.Proofs
open Program MemoryCluster

/-- The object that a call can change. -/
def touched : GatewayCall → Option Ref
  | .create ns kind manifest => (Manifest.name? manifest).map fun name => ⟨kind, ns, name⟩
  | .delete target => some target
  | .update target _ => some target
  | .get _ | .listNodes | .listPods _ => none

/-- Two clusters store the same objects. -/
def SameObjects (c c' : MemoryCluster) : Prop :=
  ∀ target, c'.object? target = c.object? target

/-! ### Single calls -/

/-- A call is logged and its fault counted down. A fault that fires is an error of the transport,
never a missing object. -/
theorem record_cases (c : MemoryCluster) (op : ObjectOp) (target : Ref) :
    (∃ report faults calls, report.cause.isNotFound = false ∧
        c.record op target = (.error report, { c with faults := faults, calls := calls })) ∨
      ∃ faults calls,
        c.record op target = (.ok (), { c with faults := faults, calls := calls }) := by
  unfold MemoryCluster.record
  dsimp only
  split
  · exact .inl ⟨_, c.faults, _, rfl, rfl⟩
  · exact .inr ⟨_, _, rfl⟩
  · exact .inr ⟨c.faults, _, rfl⟩

theorem object?_store (c : MemoryCluster) (target other : Ref) (object : Json) :
    (c.store target object).object? other =
      if other = target then some (assignNodePorts c.portsHandedOut object).1
      else c.object? other := by
  by_cases h : other = target
  · subst h
    rw [if_pos rfl]
    exact Assoc.get?_put_self _ _ _
  · rw [if_neg h]
    exact Assoc.get?_put_of_ne _ _ (Ne.symm h)

/-- A delete fails and changes no object, or leaves nothing under its name and changes no other
object. -/
theorem delete_cases (c : MemoryCluster) (target : Ref) :
    (∃ report, (c.delete target).1 = .error report ∧ report.cause.isNotFound = false ∧
        (c.delete target).2.objects = c.objects) ∨
      Settles (c.delete target).1 ∧ (c.delete target).2.object? target = none ∧
        ∀ other, other ≠ target → (c.delete target).2.object? other = c.object? other := by
  unfold MemoryCluster.delete
  rcases record_cases c .delete target with
    ⟨report, faults, calls, hfound, hrecord⟩ | ⟨faults, calls, hrecord⟩
  · rw [hrecord]
    exact .inl ⟨report, rfl, hfound, rfl⟩
  · rw [hrecord]
    right
    dsimp only
    split
    · refine ⟨trivial, Assoc.get?_erase_self _ _, fun other h => ?_⟩
      exact Assoc.get?_erase_of_ne _ (Ne.symm h)
    next absent => exact ⟨rfl, absent, fun _ _ => rfl⟩

theorem delete_settled {c d : MemoryCluster} {target : Ref}
    {removed : (GatewayCall.delete target).Result} (answer : c.delete target = (removed, d))
    (settled : Settles removed) :
    d.object? target = none ∧ ∀ other, other ≠ target → d.object? other = c.object? other := by
  rcases delete_cases c target with ⟨report, herror, hfound, -⟩ | ⟨-, habsent, hothers⟩
  · rw [answer] at herror
    subst herror
    exact absurd (hfound.symm.trans settled) Bool.false_ne_true
  · rw [answer] at habsent hothers
    exact ⟨habsent, hothers⟩

/-- A delete that fails changes no object. -/
theorem delete_failed {c d : MemoryCluster} {target : Ref} {report : Report GatewayError}
    (answer : c.delete target = (.error report, d)) : d.objects = c.objects := by
  unfold MemoryCluster.delete at answer
  rcases record_cases c .delete target with
    ⟨fault, faults, calls, -, hrecord⟩ | ⟨faults, calls, hrecord⟩
  · rw [hrecord] at answer
    cases answer
    rfl
  · rw [hrecord] at answer
    dsimp only at answer
    split at answer <;> cases answer
    rfl

theorem delete_ports (c : MemoryCluster) (target : Ref) :
    (c.delete target).2.portsHandedOut = c.portsHandedOut := by
  unfold MemoryCluster.delete
  rcases record_cases c .delete target with
    ⟨report, faults, calls, -, hrecord⟩ | ⟨faults, calls, hrecord⟩
  · rw [hrecord]
  · rw [hrecord]
    dsimp only
    split <;> rfl

theorem get_ports (c : MemoryCluster) (target : Ref) :
    (c.get target).2.portsHandedOut = c.portsHandedOut := by
  unfold MemoryCluster.get
  rcases record_cases c .get target with
    ⟨report, faults, calls, -, hrecord⟩ | ⟨faults, calls, hrecord⟩
  · rw [hrecord]
  · rw [hrecord]
    dsimp only
    split <;> rfl

/-- A create of a named manifest fails and changes no object, or it puts the manifest, placed in
its namespace and with its node ports filled in, where there was no object. -/
theorem create_cases (c : MemoryCluster) (ns : String) (kind : Kind) {manifest : Json}
    {name : String} (named : Manifest.name? manifest = some name) :
    (∃ report, (c.create ns kind manifest).1 = .error report ∧
        (c.create ns kind manifest).2.objects = c.objects) ∨
      (c.create ns kind manifest).1 = .ok ⟨kind, ns, name⟩ ∧ c.object? ⟨kind, ns, name⟩ = none ∧
        ∀ other, (c.create ns kind manifest).2.object? other =
          if other = ⟨kind, ns, name⟩ then
            some (assignNodePorts c.portsHandedOut (Manifest.placedIn ns manifest)).1
          else c.object? other := by
  unfold MemoryCluster.create
  rw [named]
  dsimp only
  rcases record_cases c .create ⟨kind, ns, name⟩ with
    ⟨report, faults, calls, -, hrecord⟩ | ⟨faults, calls, hrecord⟩
  · rw [hrecord]
    exact .inl ⟨report, rfl, rfl⟩
  · rw [hrecord]
    dsimp only
    split
    · exact .inl ⟨_, rfl, rfl⟩
    next absent => exact .inr ⟨rfl, absent, fun other => object?_store _ _ _ _⟩

/-- A create that succeeds hands out the node ports of the object. -/
theorem create_ports {c d : MemoryCluster} {ns : String} {kind : Kind} {manifest : Json}
    {made : Ref} (answer : c.create ns kind manifest = (.ok made, d)) :
    d.portsHandedOut = (assignNodePorts c.portsHandedOut (Manifest.placedIn ns manifest)).2 := by
  unfold MemoryCluster.create at answer
  split at answer
  · cases answer
  next name _ =>
    dsimp only at answer
    rcases record_cases c .create ⟨kind, ns, name⟩ with
      ⟨report, faults, calls, -, hrecord⟩ | ⟨faults, calls, hrecord⟩
    · rw [hrecord] at answer
      cases answer
    · rw [hrecord] at answer
      dsimp only at answer
      split at answer <;> cases answer
      rfl

theorem get_objects (c : MemoryCluster) (target : Ref) : (c.get target).2.objects = c.objects := by
  unfold MemoryCluster.get
  rcases record_cases c .get target with
    ⟨report, faults, calls, -, hrecord⟩ | ⟨faults, calls, hrecord⟩
  · rw [hrecord]
  · rw [hrecord]
    dsimp only
    split <;> rfl

/-- An object that is read stands there, and reading changes no object. -/
theorem get_found {c d : MemoryCluster} {target : Ref} {object : Json}
    (answer : c.get target = (.ok object, d)) :
    c.object? target = some object ∧ d.objects = c.objects := by
  unfold MemoryCluster.get at answer
  rcases record_cases c .get target with
    ⟨report, faults, calls, -, hrecord⟩ | ⟨faults, calls, hrecord⟩
  · rw [hrecord] at answer
    cases answer
  · rw [hrecord] at answer
    dsimp only at answer
    split at answer
    next stored present =>
      cases answer
      exact ⟨present, rfl⟩
    next => cases answer

/-- A create that succeeds puts the manifest, placed in its namespace and with its node ports
filled in, under the name that the manifest has. -/
theorem create_made {c d : MemoryCluster} {ns : String} {kind : Kind} {manifest : Json}
    {made : Ref} (answer : c.create ns kind manifest = (.ok made, d)) :
    ∃ name, Manifest.name? manifest = some name ∧ made = ⟨kind, ns, name⟩ ∧
      ∀ other, d.object? other = if other = made then
        some (assignNodePorts c.portsHandedOut (Manifest.placedIn ns manifest)).1
      else c.object? other := by
  cases named : Manifest.name? manifest with
  | none =>
    rw [MemoryCluster.create, named] at answer
    cases answer
  | some name =>
    rcases create_cases c ns kind named with ⟨report, herror, -⟩ | ⟨hmade, -, hstore⟩
    · rw [answer] at herror
      cases herror
    · rw [answer] at hmade hstore
      cases hmade
      exact ⟨name, rfl, rfl, hstore⟩

/-- An update fails and changes no object, or it puts the manifest, with the status that was there
and with its node ports filled in, in the place of the object. -/
theorem update_cases (c : MemoryCluster) (target : Ref) (manifest : Json) :
    (∃ report, (c.update target manifest).1 = .error report ∧
        (c.update target manifest).2.objects = c.objects) ∨
      ∃ stored, (c.update target manifest).1 = .ok target ∧ c.object? target = some stored ∧
        ∀ other, (c.update target manifest).2.object? other = if other = target then
          some (assignNodePorts c.portsHandedOut (withStatusOf stored manifest)).1
        else c.object? other := by
  unfold MemoryCluster.update
  rcases record_cases c .update target with
    ⟨report, faults, calls, -, hrecord⟩ | ⟨faults, calls, hrecord⟩
  · rw [hrecord]
    exact .inl ⟨report, rfl, rfl⟩
  · rw [hrecord]
    dsimp only
    split
    next stored present =>
      exact .inr ⟨stored, rfl, present, fun other => object?_store _ _ _ _⟩
    next => exact .inl ⟨_, rfl, rfl⟩

theorem update_frame (c : MemoryCluster) (target : Ref) (manifest : Json) {other : Ref}
    (h : other ≠ target) : (c.update target manifest).2.object? other = c.object? other := by
  rcases update_cases c target manifest with ⟨report, -, hobjects⟩ | ⟨stored, -, -, hstore⟩
  · exact congrArg (Assoc.get? · other) hobjects
  · exact (hstore other).trans (if_neg h)

theorem update_present (c : MemoryCluster) (target : Ref) (manifest : Json) {other : Ref}
    (present : c.object? other ≠ none) : (c.update target manifest).2.object? other ≠ none := by
  rcases update_cases c target manifest with ⟨report, -, hobjects⟩ | ⟨stored, -, -, hstore⟩
  · unfold MemoryCluster.object?
    rwa [hobjects]
  · rw [hstore other]
    split
    · exact Option.some_ne_none _
    · exact present

/-- A listing is logged and changes nothing else, whether it fails or not. -/
theorem answer_lists (c : MemoryCluster) {call : GatewayCall} (listing : Lists call) :
    ∃ calls, (gateway.answer call c).2 = { c with calls := calls } := by
  cases call with
  | listNodes =>
    refine ⟨c.calls ++ [.listNodes], ?_⟩
    change c.listNodes.2 = _
    unfold MemoryCluster.listNodes
    dsimp only
    split <;> rfl
  | listPods node =>
    refine ⟨c.calls ++ [.listPods node], ?_⟩
    change (c.listPods node).2 = _
    unfold MemoryCluster.listPods
    dsimp only
    split <;> rfl
  | create ns kind manifest => exact listing.elim
  | get target => exact listing.elim
  | delete target => exact listing.elim
  | update target manifest => exact listing.elim

theorem lists_frame (c : MemoryCluster) {call : GatewayCall} (listing : Lists call) (other : Ref) :
    (gateway.answer call c).2.object? other = c.object? other := by
  obtain ⟨calls, hstate⟩ := answer_lists c listing
  rw [hstate]
  rfl

/-- A call leaves every object that it does not touch. -/
theorem answer_frame (c : MemoryCluster) {call : GatewayCall} {other : Ref}
    (h : touched call ≠ some other) :
    (gateway.answer call c).2.object? other = c.object? other := by
  cases call with
  | create ns kind manifest =>
    cases hname : Manifest.name? manifest with
    | none =>
      change (c.create ns kind manifest).2.object? other = _
      rw [MemoryCluster.create, hname]
    | some name =>
      have hother : other ≠ ⟨kind, ns, name⟩ := by
        rintro rfl
        exact h (by rw [touched, hname]; rfl)
      rcases create_cases c ns kind hname with ⟨report, -, hobjects⟩ | ⟨-, -, hobjects⟩
      · exact congrArg (Assoc.get? · other) hobjects
      · exact (hobjects other).trans (if_neg hother)
  | get target => exact congrArg (Assoc.get? · other) (get_objects c target)
  | delete target =>
    have hother : other ≠ target := fun heq => h (by rw [heq]; rfl)
    rcases delete_cases c target with ⟨report, -, -, hobjects⟩ | ⟨-, -, hobjects⟩
    · exact congrArg (Assoc.get? · other) hobjects
    · exact hobjects other hother
  | update target manifest =>
    have hother : other ≠ target := fun heq => h (by rw [heq]; rfl)
    exact update_frame c target manifest hother
  | listNodes => exact @lists_frame c .listNodes trivial other
  | listPods node => exact @lists_frame c (.listPods node) trivial other

/-- An object stays unless it is deleted. -/
theorem answer_keeps {c d : MemoryCluster} {call : GatewayCall} {result : call.Result}
    {target : Ref} (present : c.object? target ≠ none)
    (answer : gateway.answer call c = (result, d)) :
    d.object? target ≠ none ∨ Event.call call result = .call (.delete target) (.ok ()) := by
  obtain rfl : (gateway.answer call c).2 = d := by rw [answer]
  by_cases h : touched call = some target
  · cases call with
    | create ns kind manifest =>
      obtain ⟨name, hname, rfl⟩ := Option.map_eq_some_iff.mp h
      rcases create_cases c ns kind hname with ⟨report, -, hobjects⟩ | ⟨-, absent, -⟩
      · left
        change (c.create ns kind manifest).2.object? _ ≠ none
        unfold MemoryCluster.object?
        rwa [hobjects]
      · exact absurd absent present
    | delete other =>
      obtain rfl := Option.some.inj h
      cases result with
      | ok _ => exact .inr rfl
      | error report =>
        left
        unfold MemoryCluster.object?
        rw [delete_failed (c := c) (by rw [← answer]; rfl)]
        exact present
    | update other manifest => exact .inl (update_present c other manifest present)
    | get _ => cases h
    | listNodes => cases h
    | listPods _ => cases h
  · left
    rwa [answer_frame c h]

/-! ### Sequences of calls -/

theorem serves_lists {c c' : MemoryCluster} {events : List Event}
    (served : Serves gateway c events c') (listing : ∀ call ∈ callTrail events, Lists call) :
    ∃ calls, c' = { c with calls := calls } := by
  refine serves_preserves (fun d => ∃ calls, d = { c with calls := calls }) ?_ served
    ⟨c.calls, rfl⟩
  rintro call hcall d ⟨calls, rfl⟩
  exact answer_lists _ (listing call hcall)

/-- An object that none of the calls touches stays as it is. -/
theorem serves_frame {c c' : MemoryCluster} {events : List Event} {other : Ref}
    (served : Serves gateway c events c')
    (untouched : ∀ call ∈ callTrail events, touched call ≠ some other) :
    c'.object? other = c.object? other :=
  serves_preserves (fun d => d.object? other = c.object? other)
    (fun call hcall d hd => (answer_frame d (untouched call hcall)).trans hd) served rfl

/-- An object that is gone afterwards was deleted. -/
theorem serves_deletes {c c' : MemoryCluster} {events : List Event} {target : Ref}
    (served : Serves gateway c events c') (present : c.object? target ≠ none)
    (absent : c'.object? target = none) : .call (.delete target) (.ok ()) ∈ events := by
  induction events generalizing c with
  | nil =>
    obtain rfl : c' = c := served
    exact absurd absent present
  | cons event rest ih =>
    cases event with
    | audit event => exact List.mem_cons_of_mem _ (ih served present)
    | call call result =>
      obtain ⟨d, hanswer, hrest⟩ := served
      rcases answer_keeps present hanswer with hkept | hdeleted
      · exact List.mem_cons_of_mem _ (ih hrest hkept)
      · rw [hdeleted]
        exact List.mem_cons_self

end ClusterProvisioning.Proofs
