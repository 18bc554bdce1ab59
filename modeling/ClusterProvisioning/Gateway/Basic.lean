import ClusterProvisioning.Json.Basic
import ClusterProvisioning.Report
import ClusterProvisioning.Resources

/-!
# Gateways

The primitive operations that provisioning asks of a cluster, and gateways, which answer them. A
gateway is any way to answer a call in a state: a cluster in memory, or an API server. Whatever it
is, it answers a call for a missing object with `GatewayError.notFound`. A gateway may also stop in
the middle of a call; then there is no answer, and the program that made the call stops with it.
-/

namespace ClusterProvisioning

/-- A call of a primitive operation of the cluster. -/
inductive GatewayCall where
  /-- Create an object of a kind in a namespace from its manifest. -/
  | create (ns : String) (kind : Kind) (manifest : Json)
  /-- Fetch a live object. -/
  | get (target : Ref)
  | delete (target : Ref)
  /-- Replace the desired state of a live object. -/
  | update (target : Ref) (manifest : Json)
  | listNodes
  | listPods (node : String)

/-- What a successful call answers. -/
abbrev GatewayCall.Answer : GatewayCall → Type
  | .create .. => Ref
  | .get _ => Json
  | .delete _ => Unit
  | .update .. => Ref
  | .listNodes => List NodeView
  | .listPods _ => List PodFootprint

/-- What a call comes back with. -/
abbrev GatewayCall.Result (call : GatewayCall) : Type :=
  Except (Report GatewayError) call.Answer

/-- A stop in the middle of a call: what is said of it, and the state that it leaves. -/
structure Halt (σ : Type) where
  message : String
  state : σ

/-- A way to answer the calls, in states of type `σ`. -/
structure Gateway (σ : Type) where
  answer : (call : GatewayCall) → σ → call.Result × σ
  /-- The stop of a call that is not answered. -/
  halt? : GatewayCall → σ → Option (Halt σ) := fun _ _ => none

end ClusterProvisioning
