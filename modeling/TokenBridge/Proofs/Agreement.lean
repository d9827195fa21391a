import TokenBridge.Proofs.Payment
import TokenBridge.Proofs.Transfer
import TokenBridge.Scripted.Signer

/-!
# Quotes and executions

A quote and the execution of the same transfer read the fee with the same
request, or are both refused without one: they are planned alike, however often
the percentage has been replaced on the way. If the fee is answered alike, all
that the execution submits is what was quoted, at the quoted fee, and it reports
the quoted terms (`Agrees`). So it is with a client's transfers and with
payments, which go to the payer whoever they are meant for (`quotes_agree`).
-/

namespace TokenBridge

open Bridge (Client)
open Contract (MessagingFee SendParam)
open Program (Ends)
open Transfer (QuoteParams SendParams)

/-! ## Terms -/

/-- What a quote promises and an execution reports: how much is sent and at least received, from
where to where, and in what time. -/
structure Transfer.Terms where
  sent : Amount
  least : Amount
  source : String
  destination : String
  seconds : BitVec 64

def Transfer.Quote.terms (q : Transfer.Quote) : Transfer.Terms :=
  ⟨q.amount, q.minAmount, q.source, q.destination, q.seconds⟩

def Transfer.Execution.terms (x : Transfer.Execution) : Transfer.Terms :=
  ⟨x.sent, x.received, x.source, x.destination, x.seconds⟩

def Payment.Result.terms (x : Payment.Result) : Transfer.Terms :=
  ⟨x.bridged, x.received, x.source, x.destination, x.seconds⟩

namespace Bridge

variable {c : Client} {p : QuoteParams} {slippage : Number.Binary64}
  {gasLimit : Option (BitVec 128)} {t : SendParams} {destination : Chain} {param : SendParam}
  {fee : MessagingFee} {log : List (Event Signer.interface)}

namespace Client

def terms (c : Client) (amount : Amount) (destination : Chain) (param : SendParam) :
    Transfer.Terms :=
  ⟨amount, param.minAmount, c.chain.name, destination.name,
    Chain.deliveryTime c.chain destination⟩

/-! ## Plans -/

theorem isValidation_of_validate {e : BridgeError} (h : c.validate p = .error e) :
    e.isValidation = true := by
  revert h
  fun_cases validate c p with
  | case1 | case2 | case3 | case4 =>
    rintro ⟨⟩
    rfl
  | case5 => rintro ⟨⟩

theorem isValidation_of_plan {e : BridgeError} (h : c.plan p slippage gasLimit = .error e) :
    e.isValidation = true := by
  unfold plan at h
  split at h
  next hv =>
    cases h
    exact isValidation_of_validate hv
  · have hr := Transfer.sendParam_eq_error.1 (eq_error_of_map h)
    obtain ⟨_, rfl⟩ := Transfer.recipientHash_eq_error hr
    rfl

/-! ## Fees -/

def feeOf (c : Client) (x : Except Report Contract.Value) : Except BridgeError MessagingFee :=
  x.mapError (BridgeError.chainCall c.chain.name "get quote") >>= MessagingFee.ofValue

/-- What needs a fee begins with the request for it, and goes on with the fee if there is one. -/
theorem ends_quoteFee_bind {α : Type} {f : MessagingFee → Work α} {y : Except BridgeError α}
    (h : Ends (c.quoteFee param >>= f).run log y) :
    ∃ x asked answered rest,
      log = ⟨.read c.token (.quoteSend param false), x, asked, answered⟩ :: rest ∧
      ((∃ err, c.feeOf x = .error err ∧ rest = [] ∧ y = .error err) ∨
        ∃ fee, c.feeOf x = .ok fee ∧ Ends (f fee).run rest y) := by
  rcases Attempt.ends_bind.1 h with ⟨err, h₁, rfl⟩ | ⟨fee, l, l', rfl, h₁, h₂⟩
  · obtain ⟨x, asked, answered, rfl, hx⟩ := Attempt.ends_request_bind.1 h₁
    exact ⟨x, asked, answered, [], rfl, .inl ⟨err, hx.symm, rfl, rfl⟩⟩
  · obtain ⟨x, asked, answered, rfl, hx⟩ := Attempt.ends_request_bind.1 h₁
    exact ⟨x, asked, answered, l', rfl, .inr ⟨fee, hx.symm, h₂⟩⟩

/-! ## Quotes -/

theorem ends_quoteWith_of_plan_eq_error {e : BridgeError} {y : Except BridgeError Transfer.Quote}
    (hp : c.plan p slippage gasLimit = .error e)
    (h : Ends (c.quoteWith p slippage gasLimit).run log y) : log = [] ∧ y = .error e := by
  unfold quoteWith at h
  rw [hp] at h
  exact Attempt.ends_ofExcept.1 h

/-- A quote of a planned transfer is told by the answer to its request. -/
theorem ends_quoteWith {y : Except BridgeError Transfer.Quote}
    (hp : c.plan p slippage gasLimit = .ok (destination, param))
    (h : Ends (c.quoteWith p slippage gasLimit).run log y) :
    ∃ x asked answered, log = [⟨.read c.token (.quoteSend param false), x, asked, answered⟩] ∧
      ((∃ err, c.feeOf x = .error err ∧ y = .error err) ∨
        ∃ fee q, c.feeOf x = .ok fee ∧ y = .ok q ∧ q.nativeFee = fee.native ∧
          q.terms = c.terms p.amount destination param) := by
  unfold quoteWith at h
  rw [hp] at h
  obtain ⟨x, asked, answered, rest, rfl, hx⟩ := ends_quoteFee_bind h
  rcases hx with ⟨err, hx, rfl, rfl⟩ | ⟨fee, hx, hq⟩
  · exact ⟨x, asked, answered, rfl, .inl ⟨err, hx, rfl⟩⟩
  · obtain ⟨rfl, rfl⟩ := Attempt.ends_pure.1 hq
    exact ⟨x, asked, answered, rfl, .inr ⟨fee, _, hx, rfl, rfl, rfl⟩⟩

/-! ## Executions -/

/-- What is left of a planned transfer once its fee is known. -/
def sendAt (c : Client) (t : SendParams) (destination : Chain) (param : SendParam)
    (fee : MessagingFee) : Work Transfer.Execution := do
  c.ensureAllowance t.quote.amount
  let hash ← c.ask "execute bridge"
    (.write c.token (.send param fee (t.refund.getD c.address)) fee.native)
  let receipt ← c.waitMined "wait for bridge transaction" hash
  let guid ← Attempt.ofExcept (messageGuid receipt)
  return {
    hash
    guid := guid.text
    sent := t.quote.amount
    received := param.minAmount
    source := c.chain.name
    destination := destination.name
    seconds := Chain.deliveryTime c.chain destination }

theorem send_eq_of_plan (hp : c.plan t.quote t.slippage t.gasLimit = .ok (destination, param)) :
    c.send t = c.quoteFee param >>= c.sendAt t destination param := by
  unfold send
  rw [plan_effective, hp]
  rfl

/-- Where a request submits a transfer, it is the one with this parameter, at this fee. -/
def SubmitsAt (c : Client) (param : SendParam) (native : Amount) (q : Signer.Request) : Prop :=
  ∀ contract param' fee refund value, q = .write contract (.send param' fee refund) value →
    contract = c.token ∧ param' = param ∧ fee.native = native ∧ value = native

theorem asksOnly_waitMined {native : Amount} (step : String) (hash : Hash) :
    (c.waitMined step hash).run.AsksOnly (c.SubmitsAt param native) :=
  Attempt.asksOnly_bind (Attempt.asksOnly_request nofun) fun _ => Attempt.asksOnly_ofExcept _

theorem asksOnly_ensureAllowance {native amount : Amount} :
    (c.ensureAllowance amount).run.AsksOnly (c.SubmitsAt param native) := by
  refine Attempt.asksOnly_bind (Attempt.asksOnly_request nofun) fun value => ?_
  refine Attempt.asksOnly_bind (Attempt.asksOnly_ofExcept _) fun current => ?_
  split
  · exact trivial
  · refine Attempt.asksOnly_bind (Attempt.asksOnly_request ?_) fun hash => ?_
    · rintro _ _ _ _ _ ⟨⟩
    · exact Attempt.asksOnly_bind (asksOnly_waitMined _ hash) fun _ => trivial

/-- Whatever the signer answers, nothing else is submitted. -/
theorem asksOnly_sendAt :
    (c.sendAt t destination param fee).run.AsksOnly (c.SubmitsAt param fee.native) := by
  refine Attempt.asksOnly_bind asksOnly_ensureAllowance fun _ => ?_
  refine Attempt.asksOnly_bind (Attempt.asksOnly_request ?_) fun hash => ?_
  · rintro contract param' fee' refund value heq
    cases heq
    exact ⟨rfl, rfl, rfl, rfl⟩
  refine Attempt.asksOnly_bind (asksOnly_waitMined _ hash) fun receipt => ?_
  exact Attempt.asksOnly_bind (Attempt.asksOnly_ofExcept _) fun _ => trivial

theorem submitted_of_ends_sendAt {x : Transfer.Execution}
    (h : Ends (c.sendAt t destination param fee).run log (.ok x)) :
    ∃ e ∈ log,
      e.request = .write c.token (.send param fee (t.refund.getD c.address)) fee.native := by
  obtain ⟨_, l, _, rfl, -, h⟩ := Attempt.ends_bind_ok.1 h
  obtain ⟨hash, _, l', rfl, hask, -⟩ := Attempt.ends_bind_ok.1 h
  obtain ⟨y, asked, answered, rfl, -⟩ := Attempt.ends_request.1 hask
  exact ⟨_, List.mem_append_right l List.mem_cons_self, rfl⟩

end Client

end Bridge

/-! ## Agreement -/

variable {α β : Type} {c : Client} {recipient : String} {terms : α → Transfer.Terms}
  {log log' : List (Event Signer.interface)} {y : Except BridgeError Transfer.Quote}
  {y' : Except BridgeError α}

/-- What follows the request for the fee of a transfer keeps to its quote. -/
structure Honours (c : Client) (param : SendParam) (q : Transfer.Quote)
    (terms : α → Transfer.Terms) (rest : List (Event Signer.interface))
    (y : Except BridgeError α) : Prop where
  /-- The least amount that is promised is the one in the parameter. -/
  least : q.minAmount = param.minAmount
  /-- Whatever is submitted is the quoted transfer, with the quoted fee named and attached. -/
  submits : ∀ e ∈ rest, c.SubmitsAt param q.nativeFee e.request
  /-- A success has been submitted, and is reported on the quoted terms. -/
  done : ∀ x, y = .ok x → terms x = q.terms ∧
    ∃ e ∈ rest, ∃ fee refund, e.request = .write c.token (.send param fee refund) q.nativeFee

/-- The events and results of a quote and of an execution. -/
inductive Agrees (c : Client) (recipient : String) (terms : α → Transfer.Terms) :
    List (Event Signer.interface) → Except BridgeError Transfer.Quote →
    List (Event Signer.interface) → Except BridgeError α → Prop where
  /-- Both are refused, and nothing is asked. -/
  | refused {e e' : BridgeError} (he : e.isValidation = true) (he' : e'.isValidation = true) :
    Agrees c recipient terms [] (.error e) [] (.error e')
  /-- Both begin with the same request; what follows depends on the answers to it. -/
  | begun {param : SendParam} {a : Address} {x x' : Except Report Contract.Value}
      {asked answered asked' answered' : Nat} {rest : List (Event Signer.interface)}
      {y : Except BridgeError Transfer.Quote} {y' : Except BridgeError α}
      (read : Address.read recipient = .ok a) (hrecipient : param.recipient = a.toHash)
      (failed : x = x' → ∀ err, y = .error err → rest = [] ∧ y' = .error err)
      (had : x = x' → ∀ q, y = .ok q → Honours c param q terms rest y') :
    Agrees c recipient terms [⟨.read c.token (.quoteSend param false), x, asked, answered⟩] y
      (⟨.read c.token (.quoteSend param false), x', asked', answered'⟩ :: rest) y'

theorem Honours.map {param : SendParam} {q : Transfer.Quote} {f : α → β}
    {terms' : β → Transfer.Terms} (hf : ∀ x, terms' (f x) = terms x)
    (h : Honours c param q terms log y') : Honours c param q terms' log (y'.map f) where
  least := h.least
  submits := h.submits
  done b hb := by
    obtain ⟨x, rfl, rfl⟩ := Bridge.eq_ok_of_map hb
    rw [hf]
    exact h.done x rfl

theorem Agrees.map {f : α → β} {terms' : β → Transfer.Terms} (hf : ∀ x, terms' (f x) = terms x)
    (h : Agrees c recipient terms log y log' y') :
    Agrees c recipient terms' log y log' (y'.map f) := by
  cases h with
  | refused he he' => exact .refused he he'
  | begun read hrecipient failed had =>
    refine .begun read hrecipient (fun hx err hy => ?_) fun hx q hy => (had hx q hy).map hf
    obtain ⟨hrest, rfl⟩ := failed hx err hy
    exact ⟨hrest, rfl⟩

/-- A client quotes a transfer as it executes it. -/
theorem Bridge.Client.agrees_of_ends {t : SendParams} {y' : Except BridgeError Transfer.Execution}
    (hq : Ends (c.quoteWith t.quote t.slippage t.gasLimit).run log y)
    (hs : Ends (c.send t).run log' y') :
    Agrees c t.quote.recipient Transfer.Execution.terms log y log' y' := by
  cases hp : c.plan t.quote t.slippage t.gasLimit with
  | error e =>
    obtain ⟨rfl, rfl⟩ := ends_quoteWith_of_plan_eq_error hp hq
    obtain ⟨rfl, rfl⟩ := ends_send_of_plan_eq_error hp hs
    exact .refused (isValidation_of_plan hp) (isValidation_of_plan hp)
  | ok planned =>
  obtain ⟨destination, param⟩ := planned
  obtain ⟨-, -, -, hr⟩ := Transfer.sendParam_eq_ok (plan_eq_ok hp)
  obtain ⟨a, ha, hrecipient⟩ := Transfer.recipientHash_eq_ok hr
  obtain ⟨x, _, _, rfl, hx⟩ := ends_quoteWith hp hq
  obtain ⟨x', _, _, rest, rfl, hx'⟩ := ends_quoteFee_bind (send_eq_of_plan hp ▸ hs)
  refine .begun ha hrecipient ?_ ?_
  · rintro rfl err rfl
    rcases hx with ⟨err, hx, ⟨⟩⟩ | ⟨_, _, _, ⟨⟩, -⟩
    rcases hx' with ⟨err', hx', rfl, rfl⟩ | ⟨_, hx', -⟩
    · cases hx.symm.trans hx'
      exact ⟨rfl, rfl⟩
    · cases hx.symm.trans hx'
  · rintro rfl q rfl
    rcases hx with ⟨_, _, ⟨⟩⟩ | ⟨fee, q, hx, ⟨⟩, hfee, hterms⟩
    rcases hx' with ⟨_, hx', -⟩ | ⟨fee', hx', hrest⟩
    · cases hx.symm.trans hx'
    cases hx.symm.trans hx'
    refine ⟨congrArg Transfer.Terms.least hterms, ?_, ?_⟩
    · rw [hfee]
      exact hrest.allowed asksOnly_sendAt
    · rintro e rfl
      obtain ⟨hsent, hreceived, hsource, hdestination, hseconds⟩ := execution_of_ends hp hs
      obtain ⟨ev, hev, hreq⟩ := submitted_of_ends_sendAt hrest
      refine ⟨?_, ev, hev, fee, _, hfee ▸ hreq⟩
      rw [hterms, terms, Transfer.Execution.terms, hsent, hreceived, hsource, hdestination,
        hseconds]

/-- A payment is estimated as it is made. -/
theorem Payment.agrees_of_ends {p : Payment.Params} {y' : Except BridgeError Payment.Result}
    (hq : Ends (Payment.estimate c p).run log y) (hs : Ends (Payment.pay c p).run log' y') :
    Agrees c p.payer Payment.Result.terms log y log' y' := by
  rcases ends_pay hs with ⟨e, hv, rfl, rfl⟩ | ⟨z, -, hsend, rfl⟩
  · obtain ⟨e', hv'⟩ := client_refuses hv
    obtain ⟨err, hp⟩ :=
      Bridge.Client.plan_eq_error (.inl ⟨e', hv'⟩) (Slippage.effective p.slippage) none
    obtain ⟨rfl, rfl⟩ := Bridge.Client.ends_quoteWith_of_plan_eq_error hp hq
    exact .refused (Bridge.Client.isValidation_of_plan hp) (isValidation_of_validate hv)
  · have hagrees : Agrees c p.payer Transfer.Execution.terms log y log' z :=
      Bridge.Client.agrees_of_ends
        (t := { quote := p.transfer, slippage := Slippage.effective p.slippage }) hq hsend
    exact hagrees.map fun _ => rfl

/-- Whoever answers, a quote and an execution of the same transfer agree, and so do the estimate
and the making of a payment, which goes to the payer. For whom it is meant makes no difference. -/
theorem quotes_agree {σ τ : Type} (h : Handler Signer.interface σ) (h' : Handler Signer.interface τ)
    (c : Client) (transfer : SendParams) (payment : Payment.Params) (now now' : Nat) (s : σ)
    (t : τ) :
    (let quoted := Program.run h
        (c.quoteWith transfer.quote transfer.slippage transfer.gasLimit).run now s
      let sent := Program.run h' (c.send transfer).run now' t
      Agrees c transfer.quote.recipient Transfer.Execution.terms quoted.events quoted.result
        sent.events sent.result) ∧
    (let estimated := Program.run h (Payment.estimate c payment).run now s
      let paid := Program.run h' (Payment.pay c payment).run now' t
      Agrees c payment.payer Payment.Result.terms estimated.events estimated.result paid.events
        paid.result) ∧
    ∀ payee, Payment.estimate c { payment with payee } = Payment.estimate c payment ∧
      Payment.pay c { payment with payee } = Payment.pay c payment :=
  ⟨Bridge.Client.agrees_of_ends (Program.ends_run h _ now s) (Program.ends_run h' _ now' t),
    Payment.agrees_of_ends (Program.ends_run h _ now s) (Program.ends_run h' _ now' t),
    fun _ => ⟨rfl, rfl⟩⟩

/-- A percentage that is no number is replaced by half a percent, in the estimate and in the
payment. -/
example :
    let p : Payment.Params :=
      { payer := "0x1234567890123456789012345678901234567890", payee := "", amount := 1000
        source := "Arbitrum", destination := "INK", slippage := ⟨0x7ff8000000000000⟩ }
    let c : Client := ⟨.arbitrum, .zero⟩
    let signer : Scripted.Signer := { fee := 7 }
    let estimated := Program.run Scripted.Signer.handler (Payment.estimate c p).run 0 signer
    let paid := Program.run Scripted.Signer.handler (Payment.pay c p).run 0 signer
    estimated.result.map (fun q => (q.minAmount, q.nativeFee)) = .ok (995, 7) ∧
      paid.result.map (·.received) = .ok 995 := by decide +kernel

end TokenBridge
