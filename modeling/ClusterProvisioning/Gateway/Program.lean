import ClusterProvisioning.Audit
import ClusterProvisioning.Gateway.Basic

/-!
# Programs over a gateway

Provisioning is written as programs: trees whose nodes are calls of the gateway and audit events.
What such a program does on a cluster is settled by running it on a gateway, so a statement about
all gateways is a statement about its tree, and several programs can be run with their calls
interleaved. `exec` is the run on a gateway that may stop in a call; where no call stops, it is
`run`.
-/

namespace ClusterProvisioning

/-- A program that makes calls, records audit events, and ends with a value. -/
inductive Program (α : Type) where
  | done (value : α)
  | call (call : GatewayCall) (next : call.Result → Program α)
  | audit (event : AuditEvent) (next : Program α)

namespace Program

variable {α β σ : Type}

/-- Goes on with a second program where the first ends. -/
def bind : Program α → (α → Program β) → Program β
  | .done value, f => f value
  | .call c next, f => .call c fun r => bind (next r) f
  | .audit event next, f => .audit event (bind next f)

instance : Monad Program where
  pure := .done
  bind := bind

/-- The program of a single call. -/
def perform (c : GatewayCall) : Program c.Result :=
  .call c .done

/-- The program that records a single event. -/
def record (action : AuditAction) (target : Ref) : Program Unit :=
  .audit ⟨action, target⟩ (.done ())

/-- What a run of a program did, in order. -/
inductive Event where
  | call (call : GatewayCall) (result : call.Result)
  | audit (event : AuditEvent)

/-- Runs a program on a gateway that answers every call: its value, the state it leaves, and what it
did. -/
def run (g : Gateway σ) : Program α → σ → α × σ × List Event
  | .done value, s => (value, s, [])
  | .call c next, s =>
    let (result, s) := g.answer c s
    let (value, s, events) := run g (next result) s
    (value, s, .call c result :: events)
  | .audit event next, s =>
    let (value, s, events) := run g next s
    (value, s, .audit event :: events)

/-- Runs a program on a gateway until the program ends or a call stops it: its value, or what is
said of the stop, with the state that is left and what the program did until then. -/
def exec (g : Gateway σ) : Program α → σ → Except String α × σ × List Event
  | .done value, s => (.ok value, s, [])
  | .call c next, s =>
    match g.halt? c s with
    | some halt => (.error halt.message, halt.state, [])
    | none =>
      let (result, s) := g.answer c s
      let (value, s, events) := exec g (next result) s
      (value, s, .call c result :: events)
  | .audit event next, s =>
    let (value, s, events) := exec g next s
    (value, s, .audit event :: events)

/-- The audit events of a run. -/
def auditTrail (events : List Event) : List AuditEvent :=
  events.filterMap fun
    | .audit event => some event
    | .call .. => none

/-- The calls of a run. -/
def callTrail (events : List Event) : List GatewayCall :=
  events.filterMap fun
    | .call c _ => some c
    | .audit _ => none

theorem bind_done (p : Program α) : p.bind .done = p := by
  induction p with
  | done _ => rfl
  | call c next ih => simp only [bind, ih]
  | audit event next ih => simp only [bind, ih]

theorem bind_assoc {γ : Type} (p : Program α) (f : α → Program β) (h : β → Program γ) :
    (p.bind f).bind h = p.bind fun a => (f a).bind h := by
  induction p with
  | done _ => rfl
  | call c next ih => simp only [bind, ih]
  | audit event next ih => simp only [bind, ih]

instance : LawfulMonad Program :=
  LawfulMonad.mk' Program (fun p => bind_done p) (fun _ _ => rfl) bind_assoc

end Program

end ClusterProvisioning
