import ClusterProvisioning.Proofs.ApplyCalls
import ClusterProvisioning.Proofs.ApplyLedger

/-!
# Clusters without faults

On a cluster on which no fault is armed the answer of a call follows from the objects alone, and no
call arms a fault. There a plan whose units promise what applying relies on is created as a whole,
whatever stood under its names before (`units_unarmed`).
-/

namespace ClusterProvisioning.Proofs
open Program MemoryCluster

/-- No fault is armed. -/
def Unarmed (c : MemoryCluster) : Prop := c.faults = []

/-- The object that a cluster stores of a manifest: its node ports are filled in, some having been
handed out before. -/
def StoredAs (manifest object : Json) : Prop :=
  ∃ used, object = (assignNodePorts used manifest).1

/-- No fault is armed for an operation. -/
def Passes (c : MemoryCluster) (op : ObjectOp) : Prop :=
  ∀ name, c.faults.get? (op, name) = none

/-- Objects are created and deleted without faults. -/
structure Calm (c : MemoryCluster) : Prop where
  creates : Passes c .create
  deletes : Passes c .delete

theorem Unarmed.passes {c : MemoryCluster} (unarmed : Unarmed c) (op : ObjectOp) :
    Passes c op := by
  intro name
  rw [show c.faults = [] from unarmed]
  rfl

theorem Unarmed.calm {c : MemoryCluster} (unarmed : Unarmed c) : Calm c :=
  ⟨unarmed.passes .create, unarmed.passes .delete⟩

/-! ### Single calls -/

theorem record_passes {c : MemoryCluster} {op : ObjectOp} (passes : Passes c op) (target : Ref) :
    c.record op target = (.ok (), { c with calls := c.calls ++ [.object op target] }) := by
  unfold MemoryCluster.record
  dsimp only
  rw [passes target.name]

theorem record_unarmed {c : MemoryCluster} (unarmed : Unarmed c) (op : ObjectOp) (target : Ref) :
    c.record op target = (.ok (), { c with calls := c.calls ++ [.object op target] }) :=
  record_passes (unarmed.passes op) target

theorem delete_passes {c d : MemoryCluster} {target : Ref}
    {removed : (GatewayCall.delete target).Result} (passes : Passes c .delete)
    (answer : c.delete target = (removed, d)) : Settles removed ∧ d.faults = c.faults := by
  unfold MemoryCluster.delete at answer
  rw [record_passes passes] at answer
  dsimp only at answer
  split at answer
  · cases answer
    exact ⟨trivial, rfl⟩
  · cases answer
    exact ⟨rfl, rfl⟩

theorem delete_unarmed {c d : MemoryCluster} {target : Ref}
    {removed : (GatewayCall.delete target).Result} (unarmed : Unarmed c)
    (answer : c.delete target = (removed, d)) : Settles removed ∧ Unarmed d := by
  obtain ⟨settled, hfaults⟩ := delete_passes (unarmed.passes .delete) answer
  exact ⟨settled, hfaults.trans unarmed⟩

theorem create_passes {c d : MemoryCluster} {ns name : String} {kind : Kind} {manifest : Json}
    {made : (GatewayCall.create ns kind manifest).Result} (passes : Passes c .create)
    (named : Manifest.name? manifest = some name) (absent : c.object? ⟨kind, ns, name⟩ = none)
    (answer : c.create ns kind manifest = (made, d)) :
    made = .ok ⟨kind, ns, name⟩ ∧ d.faults = c.faults := by
  unfold MemoryCluster.create at answer
  rw [named] at answer
  dsimp only at answer
  rw [record_passes passes] at answer
  dsimp only at answer
  split at answer
  next stored => cases absent.symm.trans stored
  next =>
    cases answer
    exact ⟨rfl, rfl⟩

theorem create_unarmed {c d : MemoryCluster} {ns name : String} {kind : Kind} {manifest : Json}
    {made : (GatewayCall.create ns kind manifest).Result} (unarmed : Unarmed c)
    (named : Manifest.name? manifest = some name) (absent : c.object? ⟨kind, ns, name⟩ = none)
    (answer : c.create ns kind manifest = (made, d)) :
    made = .ok ⟨kind, ns, name⟩ ∧ Unarmed d := by
  obtain ⟨hmade, hfaults⟩ := create_passes (unarmed.passes .create) named absent answer
  exact ⟨hmade, hfaults.trans unarmed⟩

theorem get_unarmed {c d : MemoryCluster} {target : Ref} {found : (GatewayCall.get target).Result}
    (unarmed : Unarmed c) (answer : c.get target = (found, d)) :
    Unarmed d ∧ d.objects = c.objects ∧ (∀ object, c.object? target = some object →
      found = .ok object) ∧ (c.object? target = none → found = .error (.of (.notFound target))) := by
  unfold MemoryCluster.get at answer
  rw [record_unarmed unarmed] at answer
  dsimp only at answer
  split at answer
  next object stored =>
    cases answer
    have hstored : c.object? target = some object := stored
    refine ⟨unarmed, rfl, fun other hother => ?_, fun absent => ?_⟩
    · cases hstored.symm.trans hother
      rfl
    · cases hstored.symm.trans absent
  next absent =>
    cases answer
    have habsent : c.object? target = none := absent
    refine ⟨unarmed, rfl, fun other hother => ?_, fun _ => rfl⟩
    cases habsent.symm.trans hother

theorem update_unarmed {c d : MemoryCluster} {target : Ref} {manifest stored : Json}
    {updated : (GatewayCall.update target manifest).Result} (unarmed : Unarmed c)
    (present : c.object? target = some stored)
    (answer : c.update target manifest = (updated, d)) :
    updated = .ok target ∧ Unarmed d ∧ ∃ object, StoredAs (withStatusOf stored manifest) object ∧
      ∀ other, d.object? other = if other = target then some object else c.object? other := by
  unfold MemoryCluster.update at answer
  rw [record_unarmed unarmed] at answer
  dsimp only at answer
  split at answer
  next found hfound =>
    cases hfound.symm.trans present
    cases answer
    exact ⟨rfl, unarmed, _, ⟨c.portsHandedOut, rfl⟩, fun other => object?_store _ _ _ _⟩
  next absent => cases absent.symm.trans present

/-- A call counts down a fault that is armed. -/
theorem record_faults (c : MemoryCluster) (op : ObjectOp) (target : Ref) :
    (c.record op target).2.faults = c.faults ∨ ∃ left, c.faults.get? (op, target.name) ≠ none ∧
      (c.record op target).2.faults = c.faults.put (op, target.name) left := by
  unfold MemoryCluster.record
  dsimp only
  split
  · exact .inl rfl
  next left armed =>
    have present : c.faults.get? (op, target.name) ≠ none := armed ▸ Option.some_ne_none _
    exact .inr ⟨left, present, rfl⟩
  · exact .inl rfl

/-- The operation of a call on an object. -/
def objectOp? : GatewayCall → Option ObjectOp
  | .create .. => some .create
  | .get _ => some .get
  | .delete _ => some .delete
  | .update .. => some .update
  | .listNodes | .listPods _ => none

/-- A call does to the faults what logging it does. -/
theorem answer_record (c : MemoryCluster) (call : GatewayCall) :
    (gateway.answer call c).2.faults = c.faults ∨ ∃ op target, objectOp? call = some op ∧
      (gateway.answer call c).2.faults = (c.record op target).2.faults := by
  cases call with
  | create ns kind manifest =>
    change (c.create ns kind manifest).2.faults = _ ∨ _
    cases hname : Manifest.name? manifest with
    | none =>
      rw [MemoryCluster.create, hname]
      exact .inl rfl
    | some name =>
      refine .inr ⟨.create, ⟨kind, ns, name⟩, rfl, ?_⟩
      change (c.create ns kind manifest).2.faults = _
      rw [MemoryCluster.create, hname]
      dsimp only
      rcases c.record .create ⟨kind, ns, name⟩ with ⟨_ | _, d⟩
      · rfl
      · dsimp only
        split <;> rfl
  | get target =>
    refine .inr ⟨.get, target, rfl, ?_⟩
    change (c.get target).2.faults = _
    unfold MemoryCluster.get
    rcases c.record .get target with ⟨_ | _, d⟩
    · rfl
    · dsimp only
      split <;> rfl
  | delete target =>
    refine .inr ⟨.delete, target, rfl, ?_⟩
    change (c.delete target).2.faults = _
    unfold MemoryCluster.delete
    rcases c.record .delete target with ⟨_ | _, d⟩
    · rfl
    · dsimp only
      split <;> rfl
  | update target manifest =>
    refine .inr ⟨.update, target, rfl, ?_⟩
    change (c.update target manifest).2.faults = _
    unfold MemoryCluster.update
    rcases c.record .update target with ⟨_ | _, d⟩
    · rfl
    · dsimp only
      split <;> rfl
  | listNodes =>
    obtain ⟨calls, h⟩ := @answer_lists c .listNodes trivial
    rw [h]
    exact .inl rfl
  | listPods node =>
    obtain ⟨calls, h⟩ := @answer_lists c (.listPods node) trivial
    rw [h]
    exact .inl rfl

/-- No call arms a fault. -/
theorem answer_faults (c : MemoryCluster) (call : GatewayCall) :
    (gateway.answer call c).2.faults = c.faults ∨ ∃ key left, c.faults.get? key ≠ none ∧
      (gateway.answer call c).2.faults = c.faults.put key left := by
  rcases answer_record c call with h | ⟨op, target, -, h⟩
  · exact .inl h
  · rw [h]
    rcases record_faults c op target with h | ⟨left, armed, h⟩
    · exact .inl h
    · exact .inr ⟨_, left, armed, h⟩

/-- A call leaves the faults of other operations as they are. -/
theorem answer_faults_apart (c : MemoryCluster) {call : GatewayCall} {op : ObjectOp}
    (apart : objectOp? call ≠ some op) (name : String) :
    (gateway.answer call c).2.faults.get? (op, name) = c.faults.get? (op, name) := by
  rcases answer_record c call with h | ⟨other, target, hop, h⟩
  · rw [h]
  · rw [h]
    rcases record_faults c other target with h | ⟨left, -, h⟩
    · rw [h]
    · have hkey : (other, target.name) ≠ (op, name) := fun heq =>
        apart (hop.trans (congrArg (some ∘ Prod.fst) heq))
      rw [h, Assoc.get?_put_of_ne _ _ hkey]

theorem answer_passes {c : MemoryCluster} {op : ObjectOp} (passes : Passes c op)
    (call : GatewayCall) : Passes (gateway.answer call c).2 op := by
  intro name
  rcases answer_faults c call with h | ⟨key, left, armed, h⟩
  · rw [h]
    exact passes name
  · have hkey : key ≠ (op, name) := fun heq => armed (heq ▸ passes name)
    rw [h, Assoc.get?_put_of_ne _ _ hkey]
    exact passes name

theorem answer_unarmed {c : MemoryCluster} (unarmed : Unarmed c) (call : GatewayCall) :
    Unarmed (gateway.answer call c).2 := by
  rcases answer_faults c call with h | ⟨key, left, armed, -⟩
  · exact h.trans unarmed
  · rw [show c.faults = [] from unarmed] at armed
    exact absurd rfl armed

theorem serves_calm {c c' : MemoryCluster} {events : List Event} (calm : Calm c)
    (served : Serves gateway c events c') : Calm c' :=
  serves_preserves Calm
    (fun call _ _ h => ⟨answer_passes h.creates call, answer_passes h.deletes call⟩) served calm

theorem serves_unarmed {c c' : MemoryCluster} {events : List Event} (unarmed : Unarmed c)
    (served : Serves gateway c events c') : Unarmed c' :=
  serves_preserves Unarmed (fun call _ _ h => answer_unarmed h call) served unarmed

/-! ### Applying a plan -/

/-- A unit whose manifest names it is created. -/
theorem unitFails_calm {c c' : MemoryCluster} {u : PlanUnit} {events : List Event}
    {report : Report ProvisionError} (calm : Calm c)
    (named : Manifest.name? u.manifest = some u.name) (served : Serves gateway c events c') :
    ¬UnitFails u events report := by
  intro fails
  cases fails with
  | atDelete stuck =>
    obtain ⟨d, hdelete, -⟩ := served
    obtain ⟨settled, -⟩ := delete_passes calm.deletes hdelete
    exact Bool.false_ne_true (stuck.symm.trans settled)
  | @atCreate removed report settled =>
    obtain ⟨d, hdelete, hrest⟩ := served
    have hd := @serves_calm _ _ [.call (.delete u.ref) removed] calm ⟨d, hdelete, rfl⟩
    obtain ⟨e, hcreate, -⟩ := hrest
    obtain ⟨habsent, -⟩ := delete_settled hdelete settled
    obtain ⟨hmade, -⟩ := create_passes hd.creates named habsent hcreate
    cases hmade

/-- Without faults and without cancelling, units whose manifests name them are all created. -/
theorem units_calm {c c' : MemoryCluster} {us : List PlanUnit} {events : List Event}
    {result : ApplyResult} (calm : Calm c)
    (named : ∀ u ∈ us, Manifest.name? u.manifest = some u.name)
    (course : Course .never us events result) (served : Serves gateway c events c') :
    UnitsCreated us events ∧ result = ⟨us.map PlanUnit.ref, none, none⟩ := by
  have silent : NeverFires .never us := fun _ _ _ => ⟨rfl, rfl⟩
  obtain ⟨made, rest, done, tail, rfl, rfl, created, ending⟩ := course
  obtain ⟨d, hdone, htail⟩ := (serves_append _ _ _ _ _).mp served
  have hd := serves_calm calm hdone
  have head_named : ∀ (u : PlanUnit) (rest : List PlanUnit), u ∈ made ++ u :: rest :=
    fun u rest => List.mem_append_right made List.mem_cons_self
  cases ending with
  | completed =>
    rw [List.append_nil, List.append_nil]
    exact ⟨created, rfl⟩
  | cancelled abandoned => exact absurd abandoned (not_abandoned silent rfl)
  | @kept u rest tried report fails policy =>
    exact absurd fails (unitFails_calm hd (named u (head_named u rest)) htail)
  | @rolledBack u rest tried undo report left failures fails policy undone =>
    obtain ⟨e, htried, -⟩ := (serves_append _ _ _ _ _).mp htail
    exact absurd fails (unitFails_calm hd (named u (head_named u rest)) htried)

theorem units_unarmed {c c' : MemoryCluster} {us : List PlanUnit} {events : List Event}
    {result : ApplyResult} (unarmed : Unarmed c) (form : PlanForm us)
    (course : Course .never us events result) (served : Serves gateway c events c') :
    UnitsCreated us events ∧ result = ⟨us.map PlanUnit.ref, none, none⟩ :=
  units_calm unarmed.calm form.named course served

/-- Each unit that is created is stored as its manifest, placed in its namespace. -/
theorem created_objects {us : List PlanUnit} {events : List Event}
    (created : UnitsCreated us events)
    (named : ∀ u ∈ us, Manifest.name? u.manifest = some u.name)
    (distinct : (us.map PlanUnit.ref).Nodup) {c c' : MemoryCluster}
    (served : Serves gateway c events c') :
    ∀ u ∈ us, ∃ object, StoredAs (Manifest.placedIn u.ns u.manifest) object ∧
      c'.object? u.ref = some object := by
  induction created generalizing c with
  | nil => exact fun u hu => absurd hu List.not_mem_nil
  | @cons u us events removed made settled rest ih =>
    obtain ⟨d, hdelete, e, hcreate, hrest⟩ := served
    change d.create u.ns u.kind u.manifest = (.ok made, e) at hcreate
    obtain ⟨hnamed, hothers⟩ := List.forall_mem_cons.mp named
    obtain ⟨hfresh, hdistinct⟩ := List.nodup_cons.mp distinct
    intro v hv
    rcases List.mem_cons.mp hv with rfl | hv
    · rcases create_cases d v.ns v.kind hnamed with ⟨report, herror, -⟩ | ⟨-, -, hstore⟩
      · rw [hcreate] at herror
        cases herror
      · rw [hcreate] at hstore
        refine ⟨_, ⟨d.portsHandedOut, rfl⟩, ?_⟩
        rw [confined_frame_outside (created_confined rest hothers) hrest hfresh]
        exact (hstore v.ref).trans (if_pos rfl)
    · exact ih hothers hdistinct hrest v hv

theorem unitsCreated_objects {us : List PlanUnit} {events : List Event}
    (created : UnitsCreated us events) (form : PlanForm us) {c c' : MemoryCluster}
    (served : Serves gateway c events c') :
    ∀ u ∈ us, ∃ object, StoredAs (Manifest.placedIn u.ns u.manifest) object ∧
      c'.object? u.ref = some object :=
  created_objects created form.named form.distinct served

end ClusterProvisioning.Proofs
