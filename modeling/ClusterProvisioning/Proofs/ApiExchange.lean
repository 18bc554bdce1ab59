import ClusterProvisioning.Gateway.ApiServer
import ClusterProvisioning.Proofs.ProgramTrace

/-!
# Exchanges with an API server

Which requests the calls of a program lead to, and which reply of the script answers each. A call
for which there is no request is answered on the spot and does not show among the exchanges.
-/

namespace ClusterProvisioning.Proofs
open Program ApiServer

/-- A call, the request that was sent for it, and the reply. -/
structure Exchange where
  call : GatewayCall
  request : HttpRequest
  reply : HttpReply
  sent : ApiServer.request call = .ok request

/-- The exchanges that these calls lead to, one after the other. -/
def exchanges (s : Script) : List GatewayCall → List Exchange
  | [] => []
  | c :: rest =>
    match h : ApiServer.request c with
    | .error _ => exchanges s rest
    | .ok r => ⟨c, r, (s.send r).1, h⟩ :: exchanges (s.send r).2 rest

theorem exchanges_unsent {c : GatewayCall} {report : Report GatewayError} (s : Script)
    (rest : List GatewayCall) (h : ApiServer.request c = .error report) :
    exchanges s (c :: rest) = exchanges s rest := by
  rw [exchanges]
  split
  · rfl
  next _ sent => cases h.symm.trans sent

theorem exchanges_sent {c : GatewayCall} {r : HttpRequest} (s : Script)
    (rest : List GatewayCall) (h : ApiServer.request c = .ok r) :
    exchanges s (c :: rest) = ⟨c, r, (s.send r).1, h⟩ :: exchanges (s.send r).2 rest := by
  rw [exchanges]
  split
  next _ unsent => cases h.symm.trans unsent
  next r' sent =>
    cases h.symm.trans sent
    rfl

/-- The body of a reply reads as an object. -/
def Decodes (body : String) : Prop :=
  ((Json.readDocument? body).bind ApiObject.ofDocument?).isSome = true

instance (body : String) : Decidable (Decodes body) :=
  inferInstanceAs (Decidable (_ = true))

theorem gatewayOver_sent {σ : Type} {exchange : HttpRequest → σ → HttpReply × σ} {c : GatewayCall}
    {r : HttpRequest} (s : σ) (h : ApiServer.request c = .ok r) :
    (gatewayOver exchange).answer c s = (result c (exchange r s).1, (exchange r s).2) := by
  simp only [gatewayOver, h]

theorem answer_unsent {c : GatewayCall} {report : Report GatewayError} (s : Script)
    (h : ApiServer.request c = .error report) : gateway.answer c s = (.error report, s) := by
  simp only [gateway, gatewayOver, h]

theorem answer_sent {c : GatewayCall} {r : HttpRequest} (s : Script)
    (h : ApiServer.request c = .ok r) :
    gateway.answer c s = (result c (s.send r).1, (s.send r).2) :=
  gatewayOver_sent s h

theorem exchanges_calls (s : Script) (calls : List GatewayCall) :
    (exchanges s calls).map Exchange.call = calls.filter isSent := by
  induction calls generalizing s with
  | nil => rfl
  | cons c rest ih =>
    cases h : ApiServer.request c with
    | error report =>
      have hunsent : ¬isSent c = true := by
        rw [isSent, h]
        exact Bool.false_ne_true
      rw [exchanges_unsent s rest h, List.filter_cons_of_neg hunsent, ih]
    | ok r =>
      have hsent : isSent c = true := by
        rw [isSent, h]
        rfl
      rw [exchanges_sent s rest h, List.filter_cons_of_pos hsent, List.map_cons, ih]

/-- The server has seen the requests of the exchanges, in order. -/
theorem serves_sent {s s' : Script} {events : List Event} (served : Serves gateway s events s') :
    s'.sent = s.sent ++ (exchanges s (callTrail events)).map Exchange.request := by
  induction events generalizing s with
  | nil =>
    obtain rfl : s' = s := served
    exact (List.append_nil _).symm
  | cons event rest ih =>
    cases event with
    | audit event => exact ih served
    | call c result =>
      obtain ⟨t, hanswer, hrest⟩ := served
      change s'.sent = s.sent ++ (exchanges s (c :: callTrail rest)).map Exchange.request
      cases h : ApiServer.request c with
      | error report =>
        rw [answer_unsent s h] at hanswer
        cases hanswer
        rw [exchanges_unsent s _ h]
        exact ih hrest
      | ok r =>
        rw [answer_sent s h] at hanswer
        cases hanswer
        have hsend : (s.send r).2.sent = s.sent ++ [r] := by
          unfold Script.send
          split <;> rfl
        rw [exchanges_sent s _ h, List.map_cons, ih hrest, hsend, List.append_assoc,
          List.singleton_append]

/-- An exchange is a call of the run with the answer that the reply makes of it; what is exchanged
later belongs to what the run does later. -/
theorem exchange_split {s s' : Script} {events : List Event} {earlier later : List Exchange}
    {x : Exchange} (served : Serves gateway s events s')
    (log : exchanges s (callTrail events) = earlier ++ x :: later) :
    ∃ before after t, events = before ++ .call x.call (result x.call x.reply) :: after ∧
      later = exchanges t (callTrail after) := by
  induction events generalizing s earlier with
  | nil => cases earlier <;> cases log
  | cons event rest ih =>
    cases event with
    | audit event =>
      obtain ⟨before, after, t, rfl, hlater⟩ := ih served log
      exact ⟨.audit event :: before, after, t, rfl, hlater⟩
    | call c answer =>
      obtain ⟨t, hanswer, hrest⟩ := served
      change exchanges s (c :: callTrail rest) = _ at log
      cases h : ApiServer.request c with
      | error report =>
        rw [answer_unsent s h] at hanswer
        cases hanswer
        rw [exchanges_unsent s _ h] at log
        obtain ⟨before, after, u, rfl, hlater⟩ := ih hrest log
        exact ⟨.call c _ :: before, after, u, rfl, hlater⟩
      | ok r =>
        rw [answer_sent s h] at hanswer
        cases hanswer
        rw [exchanges_sent s _ h] at log
        cases earlier with
        | nil =>
          cases log
          exact ⟨[], rest, _, rfl, rfl⟩
        | cons first earlier =>
          obtain ⟨before, after, u, rfl, hlater⟩ := ih hrest (List.cons.inj log).2
          exact ⟨.call c _ :: before, after, u, rfl, hlater⟩

/-! ### Replies -/

theorem unsent_delete {target : Ref} {report : Report GatewayError}
    (h : ApiServer.request (.delete target) = .error report) :
    report.cause.isNotFound = false := by
  unfold ApiServer.request draft at h
  dsimp only [Bind.bind, Except.bind] at h
  split at h
  next => cases h
  next =>
    cases h
    rfl

/-- A delete that leaves nothing under its name was sent: one that is not sent is no answer about
the object. -/
theorem isSent_of_settled {s s' : Script} {events : List Event} {target : Ref}
    {removed : (GatewayCall.delete target).Result} (served : Serves gateway s events s')
    (hmem : .call (.delete target) removed ∈ events) (settled : Settles removed) :
    isSent (.delete target) = true := by
  obtain ⟨t, hanswer⟩ := serves_mem served hmem
  cases h : ApiServer.request (.delete target) with
  | ok r =>
    rw [isSent, h]
    rfl
  | error report =>
    rw [answer_unsent t h] at hanswer
    obtain rfl : .error report = removed := hanswer
    exact absurd ((unsent_delete h).symm.trans settled) Bool.false_ne_true

/-- An object that the server accepted is answered exactly when the body of the reply decodes. -/
theorem created_iff_decodes {ns : String} {kind : Kind} {manifest : Json} {status : Nat}
    {body : String} (accepted : 200 ≤ status ∧ status < 300) :
    (∃ made, result (.create ns kind manifest) (.answered status body) = .ok made) ↔
      Decodes body := by
  have hstatus : Http.isFailure status = false := by
    simp only [Http.isFailure, Bool.and_eq_false_iff, decide_eq_false_iff_not]
    omega
  unfold Decodes
  simp only [result, hstatus, Bool.false_eq_true, if_false, answer]
  cases (Json.readDocument? body).bind ApiObject.ofDocument? with
  | none =>
    constructor
    · rintro ⟨made, h⟩
      cases h
    · intro h
      cases h
  | some o => exact ⟨fun _ => rfl, fun _ => ⟨_, rfl⟩⟩

end ClusterProvisioning.Proofs
