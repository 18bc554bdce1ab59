import ClusterProvisioning.Apply

/-!
# Updating a session

New resources or a new service port for a running session. Resources recreate the pod; a port is
patched in the service and in the destination of the route.
-/

namespace ClusterProvisioning

/-- Changes to a session; what is absent stays as it is. -/
structure SessionUpdate where
  cpu : Option String
  memory : Option String
  gpu : Option UInt64
  servicePort : Option UInt16
  deriving DecidableEq, Repr

/-- Why an update ends early. -/
inductive UpdateFailure where
  | failed (report : Report ProvisionError)
  /-- The live object has no place for a key: a value of this sort stands there. -/
  | unassignable (key sort : String)

namespace UpdateFailure

def unassignableMessage (key sort : String) : String :=
  s!"cannot access key {Text.quote key} in JSON {sort}"

end UpdateFailure

namespace SessionUpdate

open Program

def touchesResources (u : SessionUpdate) : Bool :=
  u.cpu.isSome || u.memory.isSome || u.gpu.isSome

def isEmpty (u : SessionUpdate) : Bool :=
  !u.touchesResources && u.servicePort.isNone

/-! ### Manifests -/

/-- The fields of the metadata that the cluster fills in. -/
def serverFields : List String :=
  ["resourceVersion", "uid", "creationTimestamp", "generation", "managedFields", "selfLink"]

/-- A live object without what the cluster filled in, ready to be submitted again. -/
def withoutServerFields (object : Json) : Json :=
  (object.withoutMember "status").modifyAt
    (fun metadata => serverFields.foldl Json.withoutMember metadata) ["metadata"]

/-- The new amounts of cpu and memory by resource name, checked. -/
def amountChanges (u : SessionUpdate) : Outcome (Table Json) := do
  let cpu ← match u.cpu with
    | some cpu => do
      let _ ← ContainerResources.requestedCpu cpu
      pure [("cpu", Json.string (Text.trim cpu))]
    | none => pure []
  let memory ← match u.memory with
    | some memory => do
      let _ ← ContainerResources.requestedMemory memory
      pure [("memory", Json.string (Text.trim memory))]
    | none => pure []
  return cpu ++ memory

/-- Sets amounts by resource name; a GPU count of zero removes the resource. -/
def setAmounts (changes : Table Json) (gpu : Option UInt64) : Json → Json
  | .object amounts =>
    let amounts := Table.extend amounts changes
    .object (match gpu with
      | none => amounts
      | some n =>
        if n = 0 then Table.erase amounts gpuResource
        else Table.insert amounts gpuResource (.string (toString n.toNat)))
  | other => other

/-- Sets the amounts of a section, such as the limits, of the resources of a container. -/
def setSection (changes : Table Json) (gpu : Option UInt64) (resources : Json) (section_ : String) :
    Json :=
  match resources with
  | .object sections =>
    .object (Table.insert sections section_
      (setAmounts changes gpu ((Table.get? sections section_).getD (.object []))))
  | other => other

/-- Sets the resources of a container. -/
def setContainer (changes : Table Json) (gpu : Option UInt64) : Json → Json
  | .object members =>
    .object (Table.insert members "resources" (["limits", "requests"].foldl
      (setSection changes gpu) ((Table.get? members "resources").getD (.object []))))
  | other => other

/-- Sets the resources of the first container of a pod. -/
def setResources (changes : Table Json) (gpu : Option UInt64) (manifest : Json) : Outcome Json :=
  match manifest.at? ["spec", "containers", "0"] with
  | some (.object _) =>
    .ok (manifest.modifyAt (setContainer changes gpu) ["spec", "containers", "0"])
  | _ => .error (.of (.validation .noSessionContainer))

/-- Assigns a value to a key: of an object, or of a new object in the place of null. -/
def assign (key : String) (value : Json) : Json → Except UpdateFailure Json
  | .object members => .ok (.object (Table.insert members key value))
  | .null => .ok (.object [(key, value)])
  | other => .error (.unassignable key other.sort)

/-- Assigns a value to a key of what stands at a path, if anything does. -/
def assignAt (path : List String) (key : String) (value : Json) (manifest : Json) :
    Except UpdateFailure Json :=
  match manifest.at? path with
  | none => .ok manifest
  | some place => do
    let place ← assign key value place
    return manifest.modifyAt (fun _ => place) path

/-! ### The update -/

/-- A program that may end early. -/
abbrev Attempt (α : Type) := ExceptT UpdateFailure Program α

/-- Goes on with the answer of an operation that did not fail. -/
def proceed {α : Type} (p : Program (Outcome α)) : Attempt α :=
  ExceptT.mk do return (← p).mapError .failed

/-- The manifest of a live object, ready to be submitted again. -/
def fetch (target : Ref) : Attempt Json :=
  proceed do
    match ← perform (.get target) with
    | .ok object => return .ok (withoutServerFields object)
    | .error report => return .error (.above (.transport (.get target)) report)

/-- What an update asks for of which units, checked before any call. -/
structure Work where
  pod : Option (Ref × Table Json)
  service : Option (Ref × UInt16)

/-- The first unit of a kind. -/
def unitOf? (units : List Ref) (kind : Kind) : Option Ref :=
  units.find? fun u => u.kind = kind

/-- Settles what is to be done, or refuses the update. -/
def work (units : List Ref) (u : SessionUpdate) : Outcome Work := do
  let pod ←
    if u.touchesResources then
      match unitOf? units .pod with
      | none => throw (.of (.validation .noSessionPod))
      | some pod => pure (some (pod, ← u.amountChanges))
    else pure none
  let service ← match u.servicePort with
    | none => pure none
    | some port =>
      if port = 0 then throw (.of (.validation .servicePortZero))
      else match unitOf? units .service with
        | none => throw (.of (.validation .noSessionService))
        | some service => pure (some (service, port))
  return ⟨pod, service⟩

/-- Recreates the pod with new resources. -/
def replacePod (pod : Ref) (changes : Table Json) (gpu : Option UInt64) : Attempt Ref := do
  let manifest ← fetch pod
  let manifest ← proceed (pure (setResources changes gpu manifest))
  proceed (Apply.replace pod manifest)

/-- Patches a port into what stands at a path of an object. -/
def replacePort (target : Ref) (path : List String) (key : String) (port : UInt16) :
    Attempt Ref := do
  let manifest ← fetch target
  let manifest ← (assignAt path key (.ofNat port.toNat) manifest : Except UpdateFailure Json)
  proceed (Apply.replace target manifest)

/-- Carries out an update that has been checked; the result lists what was replaced. -/
def carryOut (units : List Ref) (gpu : Option UInt64) (w : Work) : Attempt (List Ref) := do
  let pods ← match w.pod with
    | some (pod, changes) => pure [← replacePod pod changes gpu]
    | none => pure []
  match w.service with
  | none => return pods
  | some (service, port) =>
    let service ← replacePort service ["spec", "ports", "0"] "port" port
    match unitOf? units .virtualService with
    | none => return pods ++ [service]
    | some route =>
      let route ← replacePort route ["spec", "http", "0", "route", "0", "destination", "port"]
        "number" port
      return pods ++ [service, route]

/-- Applies an update to the session recorded in some units. -/
def run (units : List Ref) (u : SessionUpdate) : Program (Except UpdateFailure (List Ref)) :=
  if u.isEmpty then return .ok []
  else match work units u with
    | .error report => return .error (.failed report)
    | .ok w => (carryOut units u.gpu w).run

end SessionUpdate

end ClusterProvisioning
