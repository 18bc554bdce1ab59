import ClusterProvisioning.Gateway.ApiObject
import ClusterProvisioning.Gateway.Http
import ClusterProvisioning.Gateway.Inventory
import ClusterProvisioning.Gateway.Program
import ClusterProvisioning.Json.Reader

/-!
# The API server

How a call becomes a request to an API server, and how what comes back becomes the answer of the
call. A gateway follows for any way to exchange a request for a reply; the one given here takes the
replies from a script.
-/

namespace ClusterProvisioning.ApiServer

/-! ### Requests -/

/-- The path under which the objects of a kind in a namespace are served; the namespace stands there
also when its name is empty. -/
def collectionPath (kind : Kind) (ns : String) : String :=
  let root := if kind.group = "" then "/api" else "/apis"
  s!"{root}/{kind.apiVersion}/namespaces/{ns}/{kind.plural}"

/-- The path of a single object. -/
def objectPath (target : Ref) : String :=
  s!"{collectionPath target.kind target.ns}/{target.name}"

/-- An object that cannot be sent. -/
def unsendable : Report GatewayError :=
  .of (.invalidObject "manifest is not a valid Kubernetes object")

/-- The failure of a call on an object, worded by its cause. -/
def failure (target : Ref) (problem : String) : Report GatewayError :=
  .of (.transport s!"{target.kind} {target.ns}/{target.name}: {problem}")

/-- The failure of a listing. -/
def listingFailure (problem : String) : Report GatewayError := .of (.transport problem)

/-- The object that a call is about, for the wording of its failures. -/
def subject : GatewayCall → Ref
  | .create ns kind manifest =>
    ⟨kind, ns, ((ApiObject.ofJson? manifest).bind ApiObject.name?).getD ""⟩
  | .get target | .delete target | .update target _ => target
  | .listNodes | .listPods _ => ⟨.pod, "", ""⟩

/-- The failure of a call, worded by its cause. A listing does not tell its cause. -/
def callFailure (call : GatewayCall) (problem : String) : Report GatewayError :=
  match call with
  | .listNodes => listingFailure "failed to list nodes"
  | .listPods node => listingFailure s!"failed to list pods on node {node}"
  | call => failure (subject call) problem

/-- A request whose target has not been checked. -/
def draft (call : GatewayCall) : Except (Report GatewayError) HttpRequest :=
  match call with
  | .create ns kind manifest =>
    match ApiObject.ofJson? manifest with
    | some o => .ok ⟨"POST", s!"{collectionPath kind ns}?", some "application/json", some o.toJson⟩
    | none => .error unsendable
  | .get target => .ok ⟨"GET", objectPath target, none, none⟩
  | .delete target =>
    .ok ⟨"DELETE", s!"{objectPath target}?", some "application/json",
      some (.object [("gracePeriodSeconds", .ofNat 0)])⟩
  | .update target manifest =>
    match ApiObject.ofJson? manifest with
    | some o =>
      .ok ⟨"PATCH", s!"{objectPath target}?&force=true&fieldManager=provisioner",
        some "application/apply-patch+yaml", some o.toJson⟩
    | none => .error unsendable
  | .listNodes => .ok ⟨"GET", "/api/v1/nodes?", none, none⟩
  | .listPods node =>
    let selector := Http.formValue s!"spec.nodeName={node}"
    .ok ⟨"GET", s!"/api/v1/pods?&fieldSelector={selector}", none, none⟩

/-- The request for a call, or why none is sent. -/
def request (call : GatewayCall) : Except (Report GatewayError) HttpRequest := do
  let r ← draft call
  match Http.target r.target with
  | .ok target => return { r with target := target }
  | .error problem =>
    throw (callFailure call s!"Failed to build request: failed to build request: {problem.message}")

/-- Whether a request is sent for a call, so that its caller has to wait for a reply. -/
def isSent (call : GatewayCall) : Bool :=
  (request call).toOption.isSome

/-! ### Replies -/

/-- An error as an API server words it. -/
structure ApiError where
  status : String
  message : String
  reason : String
  code : Nat
  deriving DecidableEq, Repr

namespace ApiError

def ofDocument? (d : Document) : Option ApiError := do
  let fields ← d.fields? ["status", "message", "reason", "code"]
  return {
    status := ← fields.required "status" Document.string?
    message := ← fields.withDefault "message" Document.string? ""
    reason := ← fields.withDefault "reason" Document.string? ""
    code := ← fields.required "code" (Document.natBelow? UInt16.size) }

/-- The error of a failed request; a body in no known form is quoted. -/
def ofReply (status : Nat) (body : String) : ApiError :=
  match (Json.readDocument? body).bind ofDocument? with
  | some e => e
  | none => ⟨Http.statusLine status, Text.quote body, "Failed to parse error data", status⟩

def text (e : ApiError) : String :=
  s!"ApiError: {e.message}: {e.reason} (ErrorResponse \x7b status: {Text.quote e.status}, " ++
  s!"message: {Text.quote e.message}, reason: {Text.quote e.reason}, code: {e.code} \x7d)"

/-- The error of a call; the code of the error decides, not the status of the reply. -/
def report (call : GatewayCall) (e : ApiError) : Report GatewayError :=
  match call with
  | .listNodes | .listPods _ => callFailure call e.text
  | call =>
    if e.code = 404 then .of (.notFound (subject call))
    else if e.code = 409 then .of (.alreadyExists (subject call))
    else callFailure call e.text

end ApiError

def undecodable : String := "Error deserializing response"

/-- Causes in the details of a status. -/
def isStatusCause (d : Document) : Bool :=
  (do
    let fields ← d.fields? ["reason", "message", "field"]
    let _ ← fields.withDefault "reason" Document.string? ""
    let _ ← fields.withDefault "message" Document.string? ""
    fields.withDefault "field" Document.string? "").isSome

/-- The details of a status. -/
def isStatusDetails (d : Document) : Bool :=
  (do
    let fields ← d.fields? ["name", "group", "kind", "uid", "causes", "retryAfterSeconds"]
    let _ ← fields.withDefault "name" Document.string? ""
    let _ ← fields.withDefault "group" Document.string? ""
    let _ ← fields.withDefault "kind" Document.string? ""
    let _ ← fields.withDefault "uid" Document.string? ""
    let _ ← fields.withDefault "causes"
      (Document.list? fun cause => if isStatusCause cause then some () else none) []
    fields.withDefault "retryAfterSeconds" Document.uint32? 0).isSome

/-- The outcome that a status names. -/
def isStatusSummary (d : Document) : Bool :=
  d.variant? == some "Success" || d.variant? == some "Failure"

/-- Whether a document is a status. -/
def isStatus (d : Document) : Bool :=
  (do
    let fields ← d.fields? ["status", "code", "message", "reason", "details"]
    let _ ← fields.optional "status" fun s => if isStatusSummary s then some () else none
    let _ ← fields.withDefault "code" Document.uint16? 0
    let _ ← fields.withDefault "message" Document.string? ""
    let _ ← fields.withDefault "reason" Document.string? ""
    fields.optional "details" fun s => if isStatusDetails s then some () else none).isSome

/-- Whether the body of a successful delete is in order: a status where it says so, else an
object. -/
def isDeleteAnswer (d : Document) : Bool :=
  match d.toJson? with
  | some j =>
    if (j.member? "kind").bind Json.text? == some "Status" then isStatus d
    else (ApiObject.ofDocument? d).isSome
  | none => false

/-- The answer that a body gives to a call. -/
def answer (call : GatewayCall) (body : Option Document) : call.Result :=
  match call with
  | .create ns kind manifest =>
    match body.bind ApiObject.ofDocument? with
    | some o =>
      let sent := subject (.create ns kind manifest)
      .ok { sent with name := o.name?.getD sent.name }
    | none => .error (callFailure (.create ns kind manifest) undecodable)
  | .get target =>
    match body.bind ApiObject.ofDocument? with
    | some o => .ok o.toJson
    | none => .error (failure target undecodable)
  | .delete target =>
    match body.filter isDeleteAnswer with
    | some _ => .ok ()
    | none => .error (failure target undecodable)
  | .update target _ =>
    match body.bind ApiObject.ofDocument? with
    | some _ => .ok target
    | none => .error (failure target undecodable)
  | .listNodes =>
    match body.bind (Inventory.items? Schema.node) with
    | some items => items.mapM Inventory.nodeView
    | none => .error (callFailure .listNodes undecodable)
  | .listPods node =>
    match body.bind (Inventory.items? Schema.pod) with
    | some items => items.mapM (Inventory.podFootprint node)
    | none => .error (callFailure (.listPods node) undecodable)

/-- What a reply makes of a call. -/
def result (call : GatewayCall) : HttpReply → call.Result
  | .failed problem => .error (callFailure call s!"ServiceError: {problem}")
  | .answered status body =>
    if Http.isFailure status then .error ((ApiError.ofReply status body).report call)
    else answer call (Json.readDocument? body)

/-- Servers as a gateway, given what they reply to a request and the state that it leaves. -/
def gatewayOver {σ : Type} (exchange : HttpRequest → σ → HttpReply × σ) : Gateway σ where
  answer call s :=
    match request call with
    | .error report => (.error report, s)
    | .ok r =>
      let (reply, s) := exchange r s
      (result call reply, s)

/-! ### Scripted servers -/

/-- A server that answers in order from a script, and the requests sent to it so far. -/
structure Script where
  replies : List HttpReply
  sent : List HttpRequest

/-- Sends a request; when the script is at its end every connection fails. -/
def Script.send (s : Script) (r : HttpRequest) : HttpReply × Script :=
  match s.replies with
  | reply :: replies => (reply, ⟨replies, s.sent ++ [r]⟩)
  | [] => (.failed "no scripted response", ⟨[], s.sent ++ [r]⟩)

/-- Scripted servers as a gateway. -/
def gateway : Gateway Script :=
  gatewayOver fun r s => s.send r

end ClusterProvisioning.ApiServer
