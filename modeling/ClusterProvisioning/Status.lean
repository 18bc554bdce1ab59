import ClusterProvisioning.Json.Basic
import ClusterProvisioning.Report

/-!
# Status

The status of a live object as one token. Each kind of object reports its state in a shape of its
own; a registry selects, by API group and plural, the strategy that reads it.
-/

namespace ClusterProvisioning

/-- A status token, kept as the object reports it. Empty when nothing is reported yet. -/
structure Status where
  token : String
  deriving DecidableEq, Repr

/-- The stage of its life that a status token stands for. -/
inductive Phase where
  | creating
  | running
  | ready
  | unready
  | failed
  | deleting
  | deleted
  | unknown
  deriving DecidableEq, Repr

instance : ToString Phase where
  toString
    | .creating => "Creating"
    | .running => "Running"
    | .ready => "Ready"
    | .unready => "Unready"
    | .failed => "Failed"
    | .deleting => "Deleting"
    | .deleted => "Deleted"
    | .unknown => "Unknown"

namespace Status

/-- The status of an object that no longer exists. -/
def deleted : Status := ⟨"Deleted"⟩

def isEmpty (s : Status) : Bool := s.token.isEmpty

def phase (s : Status) : Phase :=
  match s.token with
  | "" | "Pending" | "Creating" | "ContainerCreating" | "Initializing" | "Created"
  | "Resetting" => .creating
  | "Running" | "Restarting" => .running
  | "Ready" | "ready" | "Succeeded" | "Completed" => .ready
  | "unready" | "Unready" | "NotReady" => .unready
  | "Failed" | "Error" | "Aborted" => .failed
  | "Terminating" | "Deleting" | "Terminated" => .deleting
  | "Deleted" => .deleted
  | _ => .unknown

/-! ### Reading a raw object -/

/-- A value that is not null. -/
def present (j : Option Json) : Option Json :=
  j.filter fun value => !value.isNull

/-- A field of the status of a raw object. -/
def field (object : Json) (name : String) : Option Json :=
  present ((object.member? "status").bind fun status => status.member? name)

/-- The text of a value that must be a string if it is there. -/
def text (value : Option Json) (otherwise : ShapeError) : Except ShapeError (Option String) :=
  match value with
  | none => .ok none
  | some (.string s) => .ok (some s)
  | some _ => .error otherwise

/-- The conditions of a raw object. -/
def conditions (object : Json) : Except ShapeError (Option (List Json)) :=
  match field object "conditions" with
  | none => .ok none
  | some (.array items) => .ok (some items)
  | some _ => .error .conditionsNotList

/-- The type of a condition. -/
def conditionType (condition : Json) (otherwise : ShapeError) : Except ShapeError Status := do
  if !condition.isObject then throw otherwise
  match ← text (condition.member? "type") .conditionTypeNotString with
  | some type => return ⟨type⟩
  | none => throw .conditionTypeNotFound

/-! ### Strategies -/

/-- How the status of an object is read. -/
inductive Strategy where
  /-- The phase, else the type of the last condition; empty without a status. -/
  | general
  /-- The phase, unless the inspected node is pending. -/
  | workflow
  /-- The type of the first condition. -/
  | session
  /-- Ready when some condition says so. -/
  | serving
  /-- The phase of the state. -/
  | batch
  /-- Whatever a caller of the library reads. -/
  | custom (read : Json → Except ShapeError Status)

def ofGeneral (object : Json) : Except ShapeError Status := do
  match present (object.member? "status") with
  | none => return ⟨""⟩
  | some _ =>
    match ← text (field object "phase") .phaseNotString with
    | some phase => return ⟨phase⟩
    | none =>
      match ← conditions object with
      | none => throw .conditionsNotFound
      | some items =>
        match items.getLast? with
        | none => throw .conditionsEmpty
        | some last => conditionType last .lastConditionNotMap

/-- Of the nodes of a workflow the one with the greatest name is inspected. -/
def ofWorkflow (object : Json) : Except ShapeError Status := do
  let phase := (← text (field object "phase") .phaseNotString).getD "Unknown"
  match field object "nodes" with
  | none => return ⟨phase⟩
  | some (.object nodes) =>
    match nodes.getLast? with
    | none => return ⟨phase⟩
    | some (_, node) =>
      if !node.isObject then throw .nodeNotMap
      match ← text (node.member? "phase") .nodePhaseNotString with
      | some "Pending" => return ⟨"Pending"⟩
      | _ => return ⟨phase⟩
  | some _ => throw .nodesNotMap

def ofSession (object : Json) : Except ShapeError Status := do
  match ← conditions object with
  | none => throw .conditionsNotFound
  | some items =>
    match items.head? with
    | none => throw .noConditions
    | some first => conditionType first .firstConditionNotMap

/-- Whether a condition says that the object is ready. -/
def isReadyCondition (condition : Json) : Bool :=
  (condition.member? "type").bind Json.text? == some "Ready" &&
    (condition.member? "status").bind Json.text? == some "True"

def ofServing (object : Json) : Except ShapeError Status := do
  let ready := ((← conditions object).getD []).any isReadyCondition
  return ⟨if ready then "ready" else "unready"⟩

def ofBatch (object : Json) : Except ShapeError Status := do
  let phase := present ((field object "state").bind fun state => state.member? "phase")
  return ⟨(← text phase .statePhaseNotString).getD "unready"⟩

/-- Reads the status of a raw object. -/
def Strategy.read : Strategy → Json → Except ShapeError Status
  | .general => ofGeneral
  | .workflow => ofWorkflow
  | .session => ofSession
  | .serving => ofServing
  | .batch => ofBatch
  | .custom read => read

end Status

/-! ### Registry -/

/-- The strategies of the kinds that have one of their own, by API group and plural, the latest
registration first. -/
structure StatusRegistry where
  entries : List ((String × String) × Status.Strategy)

namespace StatusRegistry

def empty : StatusRegistry := ⟨[]⟩

/-- Selects a strategy for a group and plural, whatever was selected before. -/
def register (r : StatusRegistry) (group plural : String) (strategy : Status.Strategy) :
    StatusRegistry :=
  ⟨((group, plural), strategy) :: r.entries⟩

def standard : StatusRegistry :=
  empty
    |>.register "argoproj.io" "workflows" .workflow
    |>.register "kubeflow.org" "notebooks" .session
    |>.register "serving.kserve.io" "inferenceservices" .serving
    |>.register "batch.volcano.sh" "jobs" .batch

/-- The strategy for a kind. -/
def strategyFor (r : StatusRegistry) (kind : Kind) : Status.Strategy :=
  (r.entries.lookup (kind.group, kind.plural)).getD .general

/-- The status of a live object of a kind. -/
def normalize (r : StatusRegistry) (kind : Kind) (object : Json) : Outcome Status :=
  ((r.strategyFor kind).read object).mapError fun problem =>
    .above (.statusShape kind problem) (Report.of problem)

end StatusRegistry

end ClusterProvisioning
