import ClusterProvisioning.Proofs.JsonChanges
import ClusterProvisioning.Proofs.StatusTokens
import Mathlib.Logic.Relation

/-!
# Null members of raw objects

A strategy does not tell a member that is null from one that is not there. What it sees of an object
(`SameSight`) stays the same when a null member is removed, and so do its answers, whether it reads
a token and which. One member is an exception: the phase of the node that a workflow inspects. A
workflow that is refused for a null there is read by its own phase once the null is gone
(`null_reads_as_absent`).
-/

namespace ClusterProvisioning.Proofs
open Status

/-- A member that strategies read: the path of the object that holds it, and its name. -/
inductive Consulted : List String → String → Prop where
  | status : Consulted [] "status"
  | statusMember {name : String} (read : name ∈ ["phase", "conditions", "nodes", "state"]) :
      Consulted ["status"] name
  | statePhase : Consulted ["status", "state"] "phase"
  | nodePhase (node : String) : Consulted ["status", "nodes", node] "phase"
  | conditionMember (position : String) {name : String} (read : name ∈ ["type", "status"]) :
      Consulted ["status", "conditions", position] name

/-- An object without the member of a name of what stands at a path. -/
def removeMember (object : Json) (path : List String) (name : String) : Json :=
  object.modifyAt (fun holder => holder.withoutMember name) path

/-- The node of a workflow that is inspected: the one with the greatest name. -/
def Inspects (object : Json) (node : String) : Prop :=
  ∃ (earlier : Table Json) (value : Json),
    object.at? ["status", "nodes"] = some (.object (earlier ++ [(node, value)])) ∧
      ∀ entry ∈ earlier, entry.1 < node

/-- The member is the phase of the node that a workflow inspects. -/
def NodePhase (strategy : Strategy) (object : Json) (path : List String) : Prop :=
  strategy = .workflow ∧ ∃ node, path = ["status", "nodes", node] ∧ Inspects object node

/-- One null member that strategies read is removed, other than the phase of an inspected node. -/
def DropsNull (strategy : Strategy) (object after : Json) : Prop :=
  ∃ path name, Consulted path name ∧ object.at? (path ++ [name]) = some .null ∧
    ¬NodePhase strategy object path ∧ after = removeMember object path name

/-! ### What strategies see -/

/-- The text of a member, if there is one. -/
def said (j : Json) (name : String) : Option String := (j.member? name).bind Json.text?

/-- What strategies see of a condition: its type and its status. -/
def conditionSight (condition : Json) : Option String × Option String :=
  (said condition "type", said condition "status")

/-- What strategies see of the conditions of an object. -/
def conditionSights (object : Json) :
    Except ShapeError (Option (List (Option String × Option String))) :=
  (conditions object).map (Option.map (List.map conditionSight))

/-- What a workflow sees of its nodes: whether there are any, whether they are a map, and the last
entry of the map. -/
def lastNode (object : Json) : Option (Option (Option (String × Json))) :=
  (field object "nodes").map fun nodes => nodes.members?.map List.getLast?

/-- The phase of the state of a batch job. -/
def statePhase (object : Json) : Option Json :=
  present ((field object "state").bind fun state => state.member? "phase")

/-- Two objects look the same to every strategy, nodes of workflows apart. -/
structure SameSight (object after : Json) : Prop where
  reported : (present (after.member? "status")).isSome =
    (present (object.member? "status")).isSome
  phase : field after "phase" = field object "phase"
  conditions : conditionSights after = conditionSights object
  state : statePhase after = statePhase object

theorem conditionType_toOption (condition : Json) (otherwise : ShapeError) :
    (conditionType condition otherwise).toOption = (conditionSight condition).1.map Status.mk := by
  cases condition with
  | object members =>
    unfold conditionType conditionSight said
    cases (Json.object members).member? "type" with
    | none => rfl
    | some value => cases value <;> rfl
  | null | bool | number | string | array => rfl

/-- The session strategy reads the type of the first condition. -/
theorem ofSession_toOption (object : Json) :
    (ofSession object).toOption = ((conditionSights object).toOption.bind fun listed =>
      (listed.getD []).head?.bind fun first => first.1).map Status.mk := by
  unfold ofSession conditionSights
  cases conditions object with
  | error problem => rfl
  | ok listed =>
    cases listed with
    | none => rfl
    | some items =>
      cases items with
      | nil => rfl
      | cons first later => exact conditionType_toOption first _

/-- The general strategy reads the phase, else the type of the last condition. -/
theorem ofGeneral_toOption (object : Json) :
    (ofGeneral object).toOption =
      if (present (object.member? "status")).isSome then
        (text (field object "phase") .phaseNotString).toOption.bind fun
          | some phase => some ⟨phase⟩
          | none => ((conditionSights object).toOption.bind fun listed =>
              (listed.getD []).getLast?.bind fun last => last.1).map Status.mk
      else some ⟨""⟩ := by
  unfold ofGeneral conditionSights
  cases present (object.member? "status") with
  | none => rfl
  | some status =>
    cases text (field object "phase") .phaseNotString with
    | error problem => rfl
    | ok phase =>
      cases phase with
      | some phase => rfl
      | none =>
        cases conditions object with
        | error problem => rfl
        | ok listed =>
          cases listed with
          | none => rfl
          | some items =>
            rcases items.eq_nil_or_concat' with rfl | ⟨earlier, last, rfl⟩
            · rfl
            · have hlast := conditionType_toOption last .lastConditionNotMap
              simpa [Except.toOption, Except.map, bind, Except.bind] using hlast

/-- The serving strategy looks for a condition that says that the object is ready. -/
theorem ofServing_toOption (object : Json) :
    (ofServing object).toOption = (conditionSights object).toOption.map fun listed =>
      ⟨if (listed.getD []).any (· == (some "Ready", some "True")) then "ready" else "unready"⟩ := by
  unfold ofServing conditionSights
  cases conditions object with
  | error problem => rfl
  | ok listed =>
    cases listed with
    | none => rfl
    | some items =>
      have ready : (items.map conditionSight).any (· == (some "Ready", some "True")) =
          items.any isReadyCondition := List.any_map
      simp only [Except.map, Except.toOption, Option.map_some, Option.getD_some, ready]
      rfl

/-- What a workflow reads from its own phase and its last node. -/
def workflowFrom (phase : Except ShapeError (Option String))
    (last : Option (Option (Option (String × Json)))) : Except ShapeError Status := do
  let phase := (← phase).getD "Unknown"
  match last with
  | none => return ⟨phase⟩
  | some none => throw .nodesNotMap
  | some (some none) => return ⟨phase⟩
  | some (some (some (_, node))) =>
    if !node.isObject then throw .nodeNotMap
    match ← text (node.member? "phase") .nodePhaseNotString with
    | some "Pending" => return ⟨"Pending"⟩
    | _ => return ⟨phase⟩

theorem ofWorkflow_eq (object : Json) : ofWorkflow object =
    workflowFrom (text (field object "phase") .phaseNotString) (lastNode object) := by
  unfold ofWorkflow workflowFrom lastNode
  congr 1
  funext given
  cases field object "nodes" with
  | none => rfl
  | some nodes =>
    cases nodes with
    | object nodes =>
      dsimp only [Option.map_some, Json.members?]
      cases nodes.getLast? <;> rfl
    | null | bool | number | string | array => rfl

/-- Objects that look the same are read the same. -/
theorem SameSight.read {object after : Json} (same : SameSight object after) {strategy : Strategy}
    (nodes : strategy = .workflow → lastNode after = lastNode object)
    (provided : ∀ read, strategy ≠ .custom read) :
    (strategy.read after).toOption = (strategy.read object).toOption := by
  cases strategy with
  | general =>
    simp only [Strategy.read, ofGeneral_toOption, same.reported, same.phase, same.conditions]
  | workflow => simp only [Strategy.read, ofWorkflow_eq, same.phase, nodes rfl]
  | session => simp only [Strategy.read, ofSession_toOption, same.conditions]
  | serving => simp only [Strategy.read, ofServing_toOption, same.conditions]
  | batch =>
    have state : ofBatch after = ofBatch object := by
      have h := same.state
      unfold statePhase at h
      unfold ofBatch
      rw [h]
    exact congrArg Except.toOption state
  | custom read => exact absurd rfl (provided read)

/-! ### Removals -/

section
variable {object after : Json}

theorem conditionSights_congr (same : field after "conditions" = field object "conditions") :
    conditionSights after = conditionSights object := by
  unfold conditionSights conditions
  rw [same]

theorem statePhase_congr (same : field after "state" = field object "state") :
    statePhase after = statePhase object := by
  unfold statePhase
  rw [same]

theorem lastNode_congr (same : field after "nodes" = field object "nodes") :
    lastNode after = lastNode object := by
  unfold lastNode
  rw [same]

/-- Objects with the same members of their status look the same. -/
theorem sameSight_of_fields
    (reported : (present (after.member? "status")).isSome =
      (present (object.member? "status")).isSome)
    (fields : ∀ name, field after name = field object name) :
    SameSight object after ∧ lastNode after = lastNode object :=
  ⟨⟨reported, fields "phase", conditionSights_congr (fields "conditions"),
    statePhase_congr (fields "state")⟩, lastNode_congr (fields "nodes")⟩

end

theorem member?_withoutMember_self (j : Json) (name : String) :
    (j.withoutMember name).member? name = none := by
  cases j with
  | object members => exact Table.get?_erase_self members name
  | null | bool | number | string | array => rfl

theorem member?_withoutMember_of_ne (j : Json) {name other : String} (h : name ≠ other) :
    (j.withoutMember name).member? other = j.member? other := by
  cases j with
  | object members => exact Table.get?_erase_of_ne members h
  | null | bool | number | string | array => rfl

/-- A member that is null is not seen, and neither is one that is not there. -/
theorem present_withoutMember {j : Json} {name : String} (null : j.member? name = some .null)
    (other : String) :
    present ((j.withoutMember name).member? other) = present (j.member? other) := by
  by_cases h : name = other
  · rw [← h, member?_withoutMember_self, null]
    rfl
  · rw [member?_withoutMember_of_ne j h]

theorem said_withoutMember {j : Json} {name : String} (null : j.member? name = some .null)
    (other : String) : said (j.withoutMember name) other = said j other := by
  unfold said
  by_cases h : name = other
  · rw [← h, member?_withoutMember_self, null]
    rfl
  · rw [member?_withoutMember_of_ne j h]

theorem conditionSight_withoutMember {j : Json} {name : String}
    (null : j.member? name = some .null) :
    conditionSight (j.withoutMember name) = conditionSight j := by
  simp only [conditionSight, said_withoutMember null]

/-! ### Where the members stand -/

theorem member?_of_at? {j value : Json} {name : String} (plain : Json.position? name = none)
    (place : j.at? [name] = some value) : j.member? name = some value :=
  (member?_eq_at? j plain).trans place

theorem object_of_member? {j value : Json} {name : String} (member : j.member? name = some value) :
    ∃ members : Table Json, j = .object members ∧ Table.get? members name = some value := by
  cases j with
  | object members => exact ⟨members, rfl, member⟩
  | null | bool | number | string | array => cases member

/-- A change below a member of the status changes that member alone. -/
theorem status_modifyAt {object value : Json} {name : String} (plain : Json.position? name = none)
    (place : object.at? ["status", name] = some value) (f : Json → Json) (rest : List String) :
    (present ((object.modifyAt f ("status" :: name :: rest)).member? "status")).isSome =
        (present (object.member? "status")).isSome ∧
      (∀ other, name ≠ other →
        field (object.modifyAt f ("status" :: name :: rest)) other = field object other) ∧
      field object name = present (some value) ∧
      field (object.modifyAt f ("status" :: name :: rest)) name =
        present (some (value.modifyAt f rest)) := by
  rw [show ["status", name] = ["status"] ++ [name] from rfl, at?_append] at place
  obtain ⟨status, hstatus, hvalue⟩ := Option.bind_eq_some_iff.mp place
  obtain ⟨members, rfl, hmembers⟩ := object_of_member? (member?_of_at? (by decide) hstatus)
  obtain ⟨fields, rfl, hfields⟩ := object_of_member? (member?_of_at? plain hvalue)
  have after : ((Json.object members).modifyAt f ("status" :: name :: rest)).member? "status" =
      some (.object (Table.insert fields name (value.modifyAt f rest))) := by
    simp only [Json.modifyAt, Json.step?, hmembers, hfields, Json.replaceStep, Json.member?,
      Table.get?_insert_self]
  have before : (Json.object members).member? "status" = some (.object fields) := hmembers
  simp only [field, after, before, Option.bind_some]
  refine ⟨rfl, fun other h => ?_, ?_, ?_⟩
  · exact congrArg present (Table.get?_insert_of_ne fields _ h)
  · exact congrArg present hfields
  · exact congrArg present (Table.get?_insert_self fields name _)

/-- A table with the value of a name replaced has the same last entry, unless the name is the
greatest one. -/
theorem getLast?_insert {t : Table Json} {name : String} {value : Json}
    (stored : Table.get? t name = some value) (other : Json) :
    (Table.insert t name other).getLast? = t.getLast? ∨
      ∃ earlier, t = earlier ++ [(name, value)] ∧ (∀ entry ∈ earlier, entry.1 < name) := by
  induction t with
  | nil => cases stored
  | cons entry rest ih =>
    obtain ⟨key, old⟩ := entry
    by_cases hkey : key = name
    · subst hkey
      simp only [Table.get?, if_pos, Option.some.injEq] at stored
      subst stored
      cases rest with
      | nil => exact .inr ⟨[], rfl, fun _ h => absurd h List.not_mem_nil⟩
      | cons next later =>
        left
        simp [Table.insert]
    · simp only [Table.get?, if_neg hkey] at stored
      by_cases hlt : name < key
      · left
        simp [Table.insert, hkey, hlt]
      · simp only [Table.insert, if_neg hkey, if_neg hlt]
        rcases ih stored with same | ⟨earlier, hrest, hearlier⟩
        · left
          simp only [List.getLast?_cons, same]
        · right
          refine ⟨(key, old) :: earlier, congrArg _ hrest,
            List.forall_mem_cons.mpr ⟨?_, hearlier⟩⟩
          rcases Std.lt_trichotomy key name with h | h | h
          · exact h
          · exact absurd h hkey
          · exact absurd h hlt

/-! ### Removals of null members -/

section
variable {object : Json}

theorem sameSight_status (null : object.at? ["status"] = some .null) :
    SameSight object (removeMember object [] "status") ∧
      lastNode (removeMember object [] "status") = lastNode object := by
  change SameSight object (object.withoutMember "status") ∧
    lastNode (object.withoutMember "status") = lastNode object
  have member := member?_of_at? (by decide) null
  refine sameSight_of_fields ?_ fun name => ?_
  · rw [present_withoutMember member]
  · unfold field
    rw [member?_withoutMember_self, member]
    rfl

theorem sameSight_statusMember {name : String} (plain : Json.position? name = none)
    (null : object.at? ["status", name] = some .null) :
    SameSight object (removeMember object ["status"] name) ∧
      lastNode (removeMember object ["status"] name) = lastNode object := by
  rw [show ["status", name] = ["status"] ++ [name] from rfl, at?_append] at null
  obtain ⟨status, hstatus, hnull⟩ := Option.bind_eq_some_iff.mp null
  have member := member?_of_at? plain hnull
  have after : (removeMember object ["status"] name).member? "status" =
      some (status.withoutMember name) := by
    have changed := at?_modifyAt_append (fun holder => holder.withoutMember name) object
      ["status"] []
    rw [hstatus] at changed
    exact member?_of_at? (by decide) changed
  have before := member?_of_at? (by decide) hstatus
  refine sameSight_of_fields ?_ fun other => ?_
  · obtain ⟨members, rfl, -⟩ := object_of_member? member
    rw [after, before]
    rfl
  · unfold field
    rw [after, before]
    exact present_withoutMember member other

theorem sameSight_statePhase (null : object.at? ["status", "state", "phase"] = some .null) :
    SameSight object (removeMember object ["status", "state"] "phase") ∧
      lastNode (removeMember object ["status", "state"] "phase") = lastNode object := by
  rw [show ["status", "state", "phase"] = ["status", "state"] ++ ["phase"] from rfl,
    at?_append] at null
  obtain ⟨state, place, hnull⟩ := Option.bind_eq_some_iff.mp null
  have member := member?_of_at? (by decide) hnull
  obtain ⟨reported, others, before, after⟩ := status_modifyAt (by decide) place
    (fun holder => holder.withoutMember "phase") []
  refine ⟨⟨reported, others _ (by decide), conditionSights_congr (others _ (by decide)), ?_⟩,
    lastNode_congr (others _ (by decide))⟩
  obtain ⟨members, rfl, -⟩ := object_of_member? member
  unfold statePhase removeMember
  rw [after, before]
  exact present_withoutMember member "phase"

theorem sameSight_conditionMember {position name : String} (plain : Json.position? name = none)
    (null : object.at? ["status", "conditions", position, name] = some .null) :
    SameSight object (removeMember object ["status", "conditions", position] name) ∧
      lastNode (removeMember object ["status", "conditions", position] name) =
        lastNode object := by
  rw [show ["status", "conditions", position, name] =
    ["status", "conditions"] ++ [position, name] from rfl, at?_append] at null
  obtain ⟨listed, place, hnull⟩ := Option.bind_eq_some_iff.mp null
  obtain ⟨condition, hstep, hbelow⟩ := Option.bind_eq_some_iff.mp hnull
  have member := member?_of_at? plain hbelow
  obtain ⟨reported, others, before, after⟩ := status_modifyAt (by decide) place
    (fun holder => holder.withoutMember name) [position]
  refine ⟨⟨reported, others _ (by decide), ?_, statePhase_congr (others _ (by decide))⟩,
    lastNode_congr (others _ (by decide))⟩
  have changed : listed.modifyAt (fun holder => holder.withoutMember name) [position] =
      listed.replaceStep position (condition.withoutMember name) := by
    simp only [Json.modifyAt, hstep]
  rw [changed] at after
  unfold conditionSights Status.conditions removeMember
  rw [after, before]
  cases listed with
  | array items =>
    obtain ⟨i, hi, hitem⟩ := Option.bind_eq_some_iff.mp hstep
    obtain ⟨hlength, rfl⟩ := List.getElem?_eq_some_iff.mp hitem
    have same : (items.set i (items[i].withoutMember name)).map conditionSight =
        items.map conditionSight := by
      rw [List.map_set, conditionSight_withoutMember member, ← List.map_set, List.set_getElem_self]
    simp only [Json.replaceStep, hi]
    exact congrArg (fun seen => Except.ok (some seen)) same
  | object members => rfl
  | null | bool | number | string => cases hstep

theorem sameSight_nodePhase {node : String}
    (null : object.at? ["status", "nodes", node, "phase"] = some .null) :
    SameSight object (removeMember object ["status", "nodes", node] "phase") ∧
      (¬Inspects object node →
        lastNode (removeMember object ["status", "nodes", node] "phase") = lastNode object) := by
  rw [show ["status", "nodes", node, "phase"] = ["status", "nodes"] ++ [node, "phase"] from rfl,
    at?_append] at null
  obtain ⟨nodes, place, hnull⟩ := Option.bind_eq_some_iff.mp null
  obtain ⟨value, hstep, -⟩ := Option.bind_eq_some_iff.mp hnull
  obtain ⟨reported, others, before, after⟩ := status_modifyAt (by decide) place
    (fun holder => holder.withoutMember "phase") [node]
  refine ⟨⟨reported, others _ (by decide), conditionSights_congr (others _ (by decide)),
    statePhase_congr (others _ (by decide))⟩, fun passed => ?_⟩
  have changed : nodes.modifyAt (fun holder => holder.withoutMember "phase") [node] =
      nodes.replaceStep node (value.withoutMember "phase") := by
    simp only [Json.modifyAt, hstep]
  rw [changed] at after
  unfold lastNode removeMember
  rw [after, before]
  cases nodes with
  | object members =>
    have stored : Table.get? members node = some value := hstep
    rcases getLast?_insert stored (value.withoutMember "phase") with same | ⟨earlier, rfl, less⟩
    · exact congrArg (fun last => some (some last)) same
    · exact absurd ⟨earlier, value, place, less⟩ passed
  | array items =>
    obtain ⟨i, hi, -⟩ := Option.bind_eq_some_iff.mp hstep
    simp only [Json.replaceStep, hi]
    rfl
  | null | bool | number | string => cases hstep

/-- An object looks the same without a null member, but for the node that a workflow inspects. -/
theorem sameSight_removeMember {path : List String} {name : String}
    (consulted : Consulted path name) (null : object.at? (path ++ [name]) = some .null) :
    SameSight object (removeMember object path name) ∧
      ((∀ node, path = ["status", "nodes", node] → ¬Inspects object node) →
        lastNode (removeMember object path name) = lastNode object) := by
  cases consulted with
  | status =>
    obtain ⟨same, nodes⟩ := sameSight_status null
    exact ⟨same, fun _ => nodes⟩
  | statusMember read =>
    have plain : ∀ name ∈ ["phase", "conditions", "nodes", "state"],
        Json.position? name = none := by decide
    obtain ⟨same, nodes⟩ := sameSight_statusMember (plain name read) null
    exact ⟨same, fun _ => nodes⟩
  | statePhase =>
    obtain ⟨same, nodes⟩ := sameSight_statePhase null
    exact ⟨same, fun _ => nodes⟩
  | nodePhase node =>
    obtain ⟨same, nodes⟩ := sameSight_nodePhase null
    exact ⟨same, fun passed => nodes (passed node rfl)⟩
  | conditionMember position read =>
    have plain : ∀ name ∈ ["type", "status"], Json.position? name = none := by decide
    obtain ⟨same, nodes⟩ := sameSight_conditionMember (plain name read) null
    exact ⟨same, fun _ => nodes⟩

end

/-- Any number of null members, none of them the phase of an inspected node, are read as absent. -/
theorem read_dropsNull {strategy : Strategy} {object after : Json}
    (provided : ∀ read, strategy ≠ .custom read)
    (dropped : Relation.ReflTransGen (DropsNull strategy) object after) :
    (strategy.read after).toOption = (strategy.read object).toOption := by
  induction dropped with
  | refl => rfl
  | tail earlier last ih =>
    obtain ⟨path, name, consulted, null, other, rfl⟩ := last
    obtain ⟨same, nodes⟩ := sameSight_removeMember consulted null
    refine (same.read (fun workflow => nodes ?_) provided).trans ih
    exact fun node hpath inspected => other ⟨workflow, node, hpath, inspected⟩

/-! ### The inspected node -/

section
variable {earlier : Table Json} {name : String}

theorem get?_greatest (less : ∀ entry ∈ earlier, entry.1 < name) (value : Json) :
    Table.get? (earlier ++ [(name, value)]) name = some value := by
  induction earlier with
  | nil => simp [Table.get?]
  | cons entry rest ih =>
    obtain ⟨hentry, hrest⟩ := List.forall_mem_cons.mp less
    have hne : entry.1 ≠ name := fun h => String.lt_irrefl name (h ▸ hentry)
    simp only [List.cons_append, Table.get?, if_neg hne]
    exact ih hrest

theorem insert_greatest (less : ∀ entry ∈ earlier, entry.1 < name) (value other : Json) :
    Table.insert (earlier ++ [(name, value)]) name other = earlier ++ [(name, other)] := by
  induction earlier with
  | nil => simp [Table.insert]
  | cons entry rest ih =>
    obtain ⟨hentry, hrest⟩ := List.forall_mem_cons.mp less
    have hne : entry.1 ≠ name := fun h => String.lt_irrefl name (h ▸ hentry)
    simp only [List.cons_append, Table.insert, if_neg hne, if_neg (String.lt_asymm hentry)]
    exact congrArg _ (ih hrest)

end

theorem lastEntry_unique {object : Json} {path : List String} {earlier others : Table Json}
    {entry other : String × Json} (place : object.at? path = some (.object (earlier ++ [entry])))
    (second : object.at? path = some (.object (others ++ [other]))) : entry = other := by
  have heq := Json.object.inj (Option.some.inj (place.symm.trans second))
  have hlast := congrArg List.getLast? heq
  rwa [List.getLast?_concat, List.getLast?_concat, Option.some.injEq] at hlast

/-- One node at most is inspected. -/
theorem inspects_unique {object : Json} {node other : String} (inspected : Inspects object node)
    (second : Inspects object other) : node = other := by
  obtain ⟨earlier, value, place, -⟩ := inspected
  obtain ⟨entries, last, hplace, -⟩ := second
  exact congrArg Prod.fst (lastEntry_unique place hplace)

/-- What a workflow tells when its last node is some value. -/
theorem tells_lastNode {object value : Json} {earlier : Table Json} {node token : String}
    (place : object.at? ["status", "nodes"] = some (.object (earlier ++ [(node, value)]))) :
    Tells .workflow object token ↔
      (∃ phase, WorkflowPhase object phase) ∧ value.at? ["phase"] = some (.string "Pending") ∧
          token = "Pending" ∨
        WorkflowPhase object token ∧ value.isObject = true ∧ (value.at? ["phase"] = none ∨
          ∃ text, value.at? ["phase"] = some (.string text) ∧ text ≠ "Pending") := by
  constructor
  · intro told
    cases told with
    | workflowAlone own alone =>
      rcases alone with (absent | null) | empty
      · cases absent.symm.trans place
      · cases null.symm.trans place
      · have heq := Json.object.inj (Option.some.inj (empty.symm.trans place))
        exact absurd heq.symm (by simp)
    | workflowPending own inspected pending =>
      cases lastEntry_unique place inspected
      exact .inl ⟨⟨_, own⟩, pending, rfl⟩
    | workflowUnderway own inspected object? other =>
      cases lastEntry_unique place inspected
      exact .inr ⟨own, object?, other⟩
  · rintro (⟨⟨phase, own⟩, pending, rfl⟩ | ⟨own, object?, other⟩)
    · exact .workflowPending own place pending
    · exact .workflowUnderway own place object? other

/-- A null phase of the inspected node refuses the workflow, which is read by its own phase once the
null is gone. -/
theorem inspected_null {object : Json} {node : String} (inspected : Inspects object node)
    (null : object.at? ["status", "nodes", node, "phase"] = some .null) (token : String) :
    ¬Tells .workflow object token ∧
      (Tells .workflow (removeMember object ["status", "nodes", node] "phase") token ↔
        WorkflowPhase object token) := by
  obtain ⟨earlier, value, place, less⟩ := inspected
  have stored := get?_greatest less value
  have hnull : value.at? ["phase"] = some .null := by
    rw [show ["status", "nodes", node, "phase"] = ["status", "nodes"] ++ [node, "phase"] from rfl,
      at?_append, place] at null
    simpa only [Option.bind_some, Json.at?, Json.step?, stored] using null
  have member := member?_of_at? (by decide) hnull
  have object? : (value.withoutMember "phase").isObject = true := by
    obtain ⟨members, rfl, -⟩ := object_of_member? member
    rfl
  have gone : (value.withoutMember "phase").at? ["phase"] = none :=
    (member?_eq_at? _ (by decide)).symm.trans (member?_withoutMember_self value "phase")
  have after : (removeMember object ["status", "nodes", node] "phase").at? ["status", "nodes"] =
      some (.object (earlier ++ [(node, value.withoutMember "phase")])) := by
    have below : (Json.object (earlier ++ [(node, value)])).modifyAt
        (fun holder => holder.withoutMember "phase") [node] =
          .object (earlier ++ [(node, value.withoutMember "phase")]) := by
      simp only [Json.modifyAt, Json.step?, stored, Json.replaceStep, insert_greatest less]
    have changed := at?_modifyAt_append
      (fun nodes => nodes.modifyAt (fun holder => holder.withoutMember "phase") [node]) object
      ["status", "nodes"] []
    rw [← modifyAt_append, place, Option.bind_some, below] at changed
    exact changed
  have phase : (removeMember object ["status", "nodes", node] "phase").at? ["status", "phase"] =
      object.at? ["status", "phase"] :=
    at?_modifyAt_apart _ object ["status"] [node] [] (by decide)
  have own : ∀ text, WorkflowPhase (removeMember object ["status", "nodes", node] "phase") text ↔
      WorkflowPhase object text := by
    intro text
    simp only [WorkflowPhase, Unset, phase]
  rw [tells_lastNode place, tells_lastNode after, hnull, gone, own]
  simp [object?]

/-! ### Normalisation -/

/-- An object of a kind whose strategy is one of the five is read the same without any number of
null members, the phase of an inspected node apart: its status is read or not, and as the same
token. If the inspected node of a workflow has a null phase, the workflow is refused, and read by
its own phase once the null is gone. -/
theorem null_reads_as_absent (r : StatusRegistry) (kind : Kind)
    (provided : ∀ read, r.strategyFor kind ≠ .custom read) :
    (∀ object after, Relation.ReflTransGen (DropsNull (r.strategyFor kind)) object after →
        (r.normalize kind after).toOption = (r.normalize kind object).toOption) ∧
      ∀ object node, r.strategyFor kind = .workflow → Inspects object node →
        object.at? ["status", "nodes", node, "phase"] = some .null →
        (r.normalize kind object).toOption = none ∧
          ∀ token, r.normalize kind (removeMember object ["status", "nodes", node] "phase") =
            .ok ⟨token⟩ ↔ WorkflowPhase object token := by
  have toOption : ∀ object, (r.normalize kind object).toOption =
      ((r.strategyFor kind).read object).toOption := by
    intro object
    unfold StatusRegistry.normalize
    cases (r.strategyFor kind).read object <;> rfl
  refine ⟨fun object after dropped => ?_, fun object node workflow inspected null => ?_⟩
  · rw [toOption, toOption]
    exact read_dropsNull provided dropped
  · have told := inspected_null inspected null
    refine ⟨?_, fun token => ?_⟩
    · rw [toOption, workflow]
      cases answer : Strategy.workflow.read object with
      | error problem => rfl
      | ok status => exact absurd ((read_tells _ _ _).mp answer) (told status.token).1
    · rw [StatusRegistry.normalize, mapError_ok, workflow, read_tells]
      exact (told token).2

/-- A workflow that reports a phase of its own, null conditions, and two nodes. -/
def nullsWorkflow (first second : Json) : Json :=
  .object [("status", .object [("conditions", .null),
    ("nodes", .object [("build", .object [("phase", first)]),
      ("test", .object [("phase", second)])]),
    ("phase", .string "Running")])]

theorem null_reads_as_absent_workflow :
    let object := nullsWorkflow .null .null
    let earlier := removeMember object ["status", "nodes", "build"] "phase"
    let after := removeMember earlier ["status"] "conditions"
    (∀ read, StatusRegistry.standard.strategyFor .workflow ≠ .custom read) ∧
      Relation.ReflTransGen (DropsNull (StatusRegistry.standard.strategyFor .workflow))
        object after ∧
      (StatusRegistry.standard.normalize .workflow after).toOption =
        (StatusRegistry.standard.normalize .workflow object).toOption ∧
      Inspects object "test" ∧ object.at? ["status", "nodes", "test", "phase"] = some .null ∧
      (StatusRegistry.standard.normalize .workflow object).toOption = none ∧
      StatusRegistry.standard.normalize .workflow
        (removeMember object ["status", "nodes", "test"] "phase") = .ok ⟨"Running"⟩ := by
  intro object earlier after
  have workflow : StatusRegistry.standard.strategyFor .workflow = .workflow := rfl
  have provided : ∀ read, StatusRegistry.standard.strategyFor .workflow ≠ .custom read := by
    intro read h
    cases workflow.symm.trans h
  have inspects : Inspects object "test" :=
    ⟨[("build", .object [("phase", .null)])], _, rfl, by decide⟩
  have null : object.at? ["status", "nodes", "test", "phase"] = some .null := rfl
  have dropped : Relation.ReflTransGen
      (DropsNull (StatusRegistry.standard.strategyFor .workflow)) object after := by
    refine .tail (.single ⟨_, _, .nodePhase "build", rfl, ?_, rfl⟩)
      ⟨_, _, .statusMember (by decide), rfl, ?_, rfl⟩
    · rintro ⟨-, node, hpath, other⟩
      cases hpath
      exact absurd (inspects_unique other inspects) (by decide)
    · rintro ⟨-, node, hpath, -⟩
      cases hpath
  obtain ⟨same, refused⟩ := null_reads_as_absent .standard .workflow provided
  obtain ⟨unread, alone⟩ := refused object "test" workflow inspects null
  exact ⟨provided, dropped, same object after dropped, inspects, null, unread,
    (alone "Running").mpr (.inl rfl)⟩

/-- The null phase of the inspected node is not read as an absent one. -/
theorem null_node_phase_refused :
    let object := nullsWorkflow (.string "Succeeded") .null
    Consulted ["status", "nodes", "test"] "phase" ∧
      object.at? ["status", "nodes", "test", "phase"] = some .null ∧
      (StatusRegistry.standard.normalize .workflow object).toOption = none ∧
      (StatusRegistry.standard.normalize .workflow
        (removeMember object ["status", "nodes", "test"] "phase")).toOption =
          some ⟨"Running"⟩ :=
  ⟨.nodePhase "test", rfl, rfl, rfl⟩

end ClusterProvisioning.Proofs
