import ClusterProvisioning.Assoc
import ClusterProvisioning.Gateway.Basic
import ClusterProvisioning.Gateway.Manifest

/-!
# A cluster in memory

A gateway that keeps its objects, nodes and pods in a value. Faults can be armed per operation and
object name, to show what happens when some calls fail; every call is logged. The number of a node
port is a sum of two numbers of sixteen bits, and a call for which it overflows stops.
-/

namespace ClusterProvisioning

/-- An operation on a single object. -/
inductive ObjectOp where
  | create
  | get
  | delete
  | update
  deriving DecidableEq, Repr

instance : ToString ObjectOp where
  toString
    | .create => "Create"
    | .get => "Get"
    | .delete => "Delete"
    | .update => "Update"

/-- One call in the log of a cluster. -/
inductive LoggedCall where
  | object (op : ObjectOp) (target : Ref)
  | listNodes
  | listPods (node : String)
  deriving DecidableEq, Repr

/-- A cluster in memory. -/
structure MemoryCluster where
  objects : Assoc Ref Json
  nodes : List NodeView
  pods : List PodFootprint
  /-- The calls of an operation on objects of a name that still succeed before the fault fires. -/
  faults : Assoc (ObjectOp × String) Nat
  nodeListingFails : Bool
  podListingFails : Bool
  /-- How many node ports have been handed out. -/
  portsHandedOut : UInt16
  /-- Every call so far, in order. -/
  calls : List LoggedCall

namespace MemoryCluster

def empty : MemoryCluster where
  objects := []
  nodes := []
  pods := []
  faults := []
  nodeListingFails := false
  podListingFails := false
  portsHandedOut := 0
  calls := []

instance : Inhabited MemoryCluster := ⟨empty⟩

/-! ### Setting the scene -/

def addNode (c : MemoryCluster) (node : NodeView) : MemoryCluster :=
  { c with nodes := c.nodes ++ [node] }

def addPod (c : MemoryCluster) (pod : PodFootprint) : MemoryCluster :=
  { c with pods := c.pods ++ [pod] }

/-- Lets a number of calls of an operation on objects of a name succeed and every later one fail. -/
def failAfter (c : MemoryCluster) (op : ObjectOp) (name : String) (successes : Nat) :
    MemoryCluster :=
  { c with faults := c.faults.put (op, name) successes }

/-- Lets every call of an operation on objects of a name fail. -/
def failOn (c : MemoryCluster) (op : ObjectOp) (name : String) : MemoryCluster :=
  c.failAfter op name 0

def clearFault (c : MemoryCluster) (op : ObjectOp) (name : String) : MemoryCluster :=
  { c with faults := c.faults.erase (op, name) }

def clearFaults (c : MemoryCluster) : MemoryCluster :=
  { c with faults := [] }

/-- Stores an object under the name in its manifest, past faults and log. -/
def insertObject (c : MemoryCluster) (ns : String) (kind : Kind) (object : Json) : MemoryCluster :=
  { c with objects := c.objects.put ⟨kind, ns, (Manifest.name? object).getD ""⟩ object }

/-- The object stored under a reference. -/
def object? (c : MemoryCluster) (target : Ref) : Option Json :=
  c.objects.get? target

/-- Writes the status of a stored object, as a controller does. -/
def setStatus (c : MemoryCluster) (target : Ref) (status : Json) : Option MemoryCluster :=
  match c.object? target with
  | some (.object members) =>
    some { c with objects := c.objects.put target
                    (.object (Table.insert members "status" status)) }
  | _ => none

/-- The targets of all calls of one operation, in order. -/
def callsOf (c : MemoryCluster) (op : ObjectOp) : List Ref :=
  c.calls.filterMap fun
    | .object other target => if other = op then some target else none
    | _ => none

/-! ### Node ports -/

/-- The first port handed out to a service that pins none. -/
def firstNodePort : UInt16 := 30000

/-- The number of the next node port when some are handed out. One that does not fit sixteen bits is
never given: the addition overflows (`overflowAt?`), and the call stops. -/
def nodePortAfter (used : UInt16) : Nat := firstNodePort.toNat + used.toNat

/-- Gives every port of a list that pins no node port the next one; `used` counts the ports handed
out before and after. -/
def assignPorts (used : UInt16) : List Json → List Json × UInt16
  | [] => ([], used)
  | .object members :: rest =>
    match Table.get? members "nodePort" with
    | some _ =>
      let (ports, used) := assignPorts used rest
      (.object members :: ports, used)
    | none =>
      let port := Json.object (Table.insert members "nodePort"
        (.ofNat (nodePortAfter used)))
      let (ports, used) := assignPorts (used + 1) rest
      (port :: ports, used)
  | other :: rest =>
    let (ports, used) := assignPorts used rest
    (other :: ports, used)

/-- How many ports are handed out when the addition for the next port of a list overflows, if it
does. -/
def overflowAt? (used : UInt16) : List Json → Option UInt16
  | [] => none
  | .object members :: rest =>
    match Table.get? members "nodePort" with
    | some _ => overflowAt? used rest
    | none => if nodePortAfter used < UInt16.size then overflowAt? (used + 1) rest else some used
  | _ :: rest => overflowAt? used rest

/-- Fills in the node ports of an object that asks for some. -/
def assignNodePorts (used : UInt16) (object : Json) : Json × UInt16 :=
  if Manifest.wantsNodePorts object then
    match (object.at? ["spec", "ports"]).bind Json.items? with
    | some ports =>
      let (ports, used) := assignPorts used ports
      (object.modifyAt (fun _ => .array ports) ["spec", "ports"], used)
    | none => (object, used)
  else (object, used)

/-! ### Calls -/

/-- Logs a call on an object and answers the fault that is armed for it, if it fires. -/
def record (c : MemoryCluster) (op : ObjectOp) (target : Ref) :
    Except (Report GatewayError) Unit × MemoryCluster :=
  let c := { c with calls := c.calls ++ [.object op target] }
  match c.faults.get? (op, target.name) with
  | some 0 => (.error (.of (.transport s!"injected {op} failure for {target}")), c)
  | some (left + 1) => (.ok (), { c with faults := c.faults.put (op, target.name) left })
  | none => (.ok (), c)

/-- Stores an object with its node ports filled in. -/
def store (c : MemoryCluster) (target : Ref) (object : Json) : MemoryCluster :=
  let (object, used) := assignNodePorts c.portsHandedOut object
  { c with objects := c.objects.put target object, portsHandedOut := used }

def create (c : MemoryCluster) (ns : String) (kind : Kind) (manifest : Json) :
    Except (Report GatewayError) Ref × MemoryCluster :=
  match Manifest.name? manifest with
  | none => (.error (.of (.invalidObject s!"{kind} manifest has no metadata.name")), c)
  | some name =>
    let target : Ref := ⟨kind, ns, name⟩
    match c.record .create target with
    | (.error report, c) => (.error report, c)
    | (.ok (), c) =>
      match c.object? target with
      | some _ => (.error (.of (.alreadyExists target)), c)
      | none => (.ok target, c.store target (Manifest.placedIn ns manifest))

def get (c : MemoryCluster) (target : Ref) : Except (Report GatewayError) Json × MemoryCluster :=
  match c.record .get target with
  | (.error report, c) => (.error report, c)
  | (.ok (), c) =>
    match c.object? target with
    | some object => (.ok object, c)
    | none => (.error (.of (.notFound target)), c)

def delete (c : MemoryCluster) (target : Ref) :
    Except (Report GatewayError) Unit × MemoryCluster :=
  match c.record .delete target with
  | (.error report, c) => (.error report, c)
  | (.ok (), c) =>
    match c.object? target with
    | some _ => (.ok (), { c with objects := c.objects.erase target })
    | none => (.error (.of (.notFound target)), c)

/-- The desired state of an object that replaces a stored one: the status belongs to controllers
and survives unless the new state has one. -/
def withStatusOf (stored manifest : Json) : Json :=
  match stored.member? "status", manifest.member? "status" with
  | some status, none => manifest.withMember "status" status
  | _, _ => manifest

def update (c : MemoryCluster) (target : Ref) (manifest : Json) :
    Except (Report GatewayError) Ref × MemoryCluster :=
  match c.record .update target with
  | (.error report, c) => (.error report, c)
  | (.ok (), c) =>
    match c.object? target with
    | some stored => (.ok target, c.store target (withStatusOf stored manifest))
    | none => (.error (.of (.notFound target)), c)

def listNodes (c : MemoryCluster) :
    Except (Report GatewayError) (List NodeView) × MemoryCluster :=
  let c := { c with calls := c.calls ++ [.listNodes] }
  if c.nodeListingFails then (.error (.of (.transport "injected node listing failure")), c)
  else (.ok c.nodes, c)

def listPods (c : MemoryCluster) (node : String) :
    Except (Report GatewayError) (List PodFootprint) × MemoryCluster :=
  let c := { c with calls := c.calls ++ [.listPods node] }
  if c.podListingFails then
    (.error (.of (.transport s!"injected pod listing failure on {node}")), c)
  else (.ok (c.pods.filter fun pod => pod.node = node), c)

/-! ### Stops -/

/-- What is said of an addition whose sum does not fit. -/
def overflowMessage : String := "attempt to add with overflow"

/-- The stop at a node port of an object that is to be stored: the ports before that one are handed
out, and nothing is stored. -/
def overflow? (c : MemoryCluster) (object : Json) : Option (Halt MemoryCluster) :=
  if Manifest.wantsNodePorts object then
    (((object.at? ["spec", "ports"]).bind Json.items?).bind (overflowAt? c.portsHandedOut)).map
      fun used => ⟨overflowMessage, { c with portsHandedOut := used }⟩
  else none

/-- The cluster in which a call on an object is logged, if no fault fires. -/
def passed? (c : MemoryCluster) (op : ObjectOp) (target : Ref) : Option MemoryCluster :=
  match c.record op target with
  | (.error _, _) => none
  | (.ok (), c) => some c

/-- The stop of a call. Only an object that is to be stored is given node ports. -/
def halt? : GatewayCall → MemoryCluster → Option (Halt MemoryCluster)
  | .create ns kind manifest, c => do
    let name ← Manifest.name? manifest
    let c ← c.passed? .create ⟨kind, ns, name⟩
    match c.object? ⟨kind, ns, name⟩ with
    | some _ => none
    | none => c.overflow? (Manifest.placedIn ns manifest)
  | .update target manifest, c => do
    let c ← c.passed? .update target
    let stored ← c.object? target
    c.overflow? (withStatusOf stored manifest)
  | .get _, _ | .delete _, _ | .listNodes, _ | .listPods _, _ => none

/-- Clusters in memory as a gateway. -/
def gateway : Gateway MemoryCluster where
  halt? := halt?
  answer
    | .create ns kind manifest, c => c.create ns kind manifest
    | .get target, c => c.get target
    | .delete target, c => c.delete target
    | .update target manifest, c => c.update target manifest
    | .listNodes, c => c.listNodes
    | .listPods node, c => c.listPods node

end MemoryCluster

end ClusterProvisioning
