import TokenBridge.Bridge
import TokenBridge.Proofs.Contract.Value
import TokenBridge.Proofs.Program
import TokenBridge.Proofs.Slippage
import TokenBridge.Scripted.Signer

/-!
# The course of a transfer

A transfer takes its steps in one of two orders: the quote, the allowance, the
submission and its confirmation, or the same with an approval and its
confirmation after the allowance. A `Course` is a list of steps with the
answered requests. `Sends` says of a course that it keeps to an order and asks
what it should, that a submission is covered, and that the result is told by
the first step that fails, which is the last one. Every run of `Client.send` is
such a course (`Client.send_takes_course`).
-/

namespace TokenBridge.Bridge

open Contract (MessagingFee SendParam)
open Program (Ends)
open Transfer (SendParams)

/-! ## Steps -/

/-- The transaction that a submitted call was answered with. -/
def hash? : Event Signer.interface → Option Hash
  | ⟨.write .., .ok hash, _, _⟩ => some hash
  | _ => none

/-- The amount that the answer to a read stands for. -/
def allowance? : Event Signer.interface → Option Amount
  | ⟨.read .., .ok value, _, _⟩ => (Contract.Value.toAmount "allowance" value).toOption
  | _ => none

def receipt? : Event Signer.interface → Option Receipt
  | ⟨.wait _, .ok receipt, _, _⟩ => some receipt
  | _ => none

/-- The steps of a transfer, each one request to the signer. -/
inductive Step where
  | quote
  | allowance
  | approval
  | approved
  | submission
  | confirmed
  deriving DecidableEq, Repr

abbrev Course := List (Step × Event Signer.interface)

namespace Step

def text : Step → String
  | quote => "get quote"
  | allowance => "check allowance"
  | approval => "approve"
  | approved => "wait for approval"
  | submission => "execute bridge"
  | confirmed => "wait for bridge transaction"

/-- The order where the allowance suffices. -/
def direct : List Step := [quote, allowance, submission, confirmed]

/-- The order where the allowance is raised. -/
def raised : List Step := [quote, allowance, approval, approved, submission, confirmed]

/-- What a step of a course asks of the signer; a wait is for the transaction of the write before
it. -/
def Asks (c : Client) (p : SendParams) (param : SendParam) (course : Course) :
    Step → Signer.Request → Prop
  | quote, r => r = .read c.token (.quoteSend param false)
  | allowance, r => r = .read c.token (.allowance c.address c.token)
  | approval, r => r = .write c.token (.approve c.token p.quote.amount) 0
  | approved, r => ∃ w hash, (approval, w) ∈ course ∧ hash? w = some hash ∧ r = .wait hash
  | submission, r =>
    ∃ fee, r = .write c.token (.send param fee (p.refund.getD c.address)) fee.native
  | confirmed, r => ∃ w hash, (submission, w) ∈ course ∧ hash? w = some hash ∧ r = .wait hash

/-- Whether an answer that is no failure of the signer is accepted: a quote and an allowance have
to stand for what was asked, and a transaction must not be reverted. -/
def accept (c : Client) : Step → (r : Signer.Request) → Signer.Reward r → Except BridgeError Unit
  | quote, .read .., value => (MessagingFee.ofValue value).map fun _ => ()
  | allowance, .read .., value => (Contract.Value.toAmount "allowance" value).map fun _ => ()
  | approved, .wait hash, receipt | confirmed, .wait hash, receipt =>
    if receipt.status then .ok () else .error (.transactionReverted c.chain.name hash)
  | _, _, _ => .ok ()

/-- Whether an answered step has passed, and with which failure it has not. -/
def outcome (c : Client) (step : Step) : Event Signer.interface → Except BridgeError Unit
  | ⟨_, .error report, _, _⟩ => .error (.chainCall c.chain.name step.text report)
  | ⟨r, .ok x, _, _⟩ => step.accept c r x

end Step

/-! ## Courses -/

namespace Course

variable {α β : Type} {c : Client}

def Passes (c : Client) (course : Course) : Prop := ∀ x ∈ course, x.1.outcome c x.2 = .ok ()

/-- The last step has failed with the error, and every step before it has passed. -/
def Fails (c : Client) (course : Course) (e : BridgeError) : Prop :=
  ∃ before x, course = before ++ [x] ∧ Passes c before ∧ x.1.outcome c x.2 = .error e

/-- A course that passes where there is a value, and fails with the error where there is none. -/
def Tells (c : Client) (course : Course) : Except BridgeError α → Prop
  | .ok _ => Passes c course
  | .error e => Fails c course e

theorem Passes.append {s t : Course} (hs : Passes c s) (ht : Passes c t) : Passes c (s ++ t) := by
  intro x hx
  rcases List.mem_append.1 hx with h | h
  · exact hs x h
  · exact ht x h

theorem Fails.append {s t : Course} {e : BridgeError} (hs : Passes c s) (ht : Fails c t e) :
    Fails c (s ++ t) e := by
  obtain ⟨before, x, rfl, hb, hx⟩ := ht
  exact ⟨s ++ before, x, (List.append_assoc ..).symm, hs.append hb, hx⟩

theorem Tells.append {s t : Course} {y : Except BridgeError α} (hs : Passes c s)
    (ht : Tells c t y) : Tells c (s ++ t) y := by
  cases y with
  | ok a => exact hs.append ht
  | error e => exact Fails.append hs ht

theorem tells_single {step : Step} {e : Event Signer.interface} {y : Except BridgeError α}
    (h : step.outcome c e = y.map fun _ => ()) : Tells c [(step, e)] y := by
  cases y with
  | ok a =>
    intro x hx
    rw [List.mem_singleton.1 hx]
    exact h
  | error err =>
    refine ⟨[], (step, e), rfl, ?_, h⟩
    intro x hx
    cases hx

end Course

/-! ## Parts of a transfer -/

/-- After the past steps, a part of a transfer takes the steps of an order: all of them if it has
a value, and else those up to the one that fails. -/
structure Takes {α : Type} (c : Client) (p : SendParams) (param : SendParam) (past : Course)
    (order : List Step) (course : Course) (y : Except BridgeError α) : Prop where
  isPrefix : course.map (·.1) <+: order
  whole : ∀ a, y = .ok a → course.map (·.1) = order
  asks : ∀ x ∈ course, x.1.Asks c p param (past ++ course) x.2.request
  told : course.Tells c y

theorem Step.Asks.mono {c : Client} {p : SendParams} {param : SendParam} {s t : Course}
    {step : Step} {r : Signer.Request} (hs : s ⊆ t) (h : step.Asks c p param s r) :
    step.Asks c p param t r := by
  cases step with
  | approved =>
    obtain ⟨w, hash, hw, h⟩ := h
    exact ⟨w, hash, hs hw, h⟩
  | confirmed =>
    obtain ⟨w, hash, hw, h⟩ := h
    exact ⟨w, hash, hs hw, h⟩
  | quote | allowance | approval | submission => exact h

namespace Takes

variable {α β : Type} {c : Client} {p : SendParams} {param : SendParam} {past : Course}

theorem single {step : Step} {e : Event Signer.interface} {y : Except BridgeError α}
    (ha : step.Asks c p param past e.request) (ho : step.outcome c e = y.map fun _ => ()) :
    Takes c p param past [step] [(step, e)] y where
  isPrefix := List.prefix_rfl
  whole _ _ := rfl
  asks x hx := by
    rw [List.mem_singleton.1 hx]
    exact ha.mono (List.subset_append_left ..)
  told := Course.tells_single ho

theorem map {order : List Step} {s : Course} {y : Except BridgeError α} (f : α → β)
    (h : Takes c p param past order s y) : Takes c p param past order s (y.map f) := by
  cases y with
  | ok a => exact ⟨h.isPrefix, fun _ _ => h.whole a rfl, h.asks, h.told⟩
  | error e => exact ⟨h.isPrefix, nofun, h.asks, h.told⟩

/-- A part that fails leaves the steps after it out. -/
theorem stop {order : List Step} {s : Course} {e : BridgeError} (rest : List Step)
    (h : Takes c p param past order s (.error e : Except BridgeError α)) :
    Takes c p param past (order ++ rest) s (.error e : Except BridgeError β) where
  isPrefix := h.isPrefix.trans (List.prefix_append ..)
  whole := nofun
  asks := h.asks
  told := h.told

theorem append {order order' : List Step} {s t : Course} {a : α} {y : Except BridgeError β}
    (h : Takes c p param past order s (.ok a)) (h' : Takes c p param (past ++ s) order' t y) :
    Takes c p param past (order ++ order') (s ++ t) y where
  isPrefix := by
    rw [List.map_append, h.whole a rfl]
    exact List.prefix_append_right_inj _ |>.2 h'.isPrefix
  whole b hb := by rw [List.map_append, h.whole a rfl, h'.whole b hb]
  asks x hx := by
    rw [← List.append_assoc]
    rcases List.mem_append.1 hx with hs | ht
    · exact (h.asks x hs).mono (List.subset_append_left ..)
    · exact h'.asks x ht
  told := Course.Tells.append (show Course.Passes c s from h.told) h'.told

theorem mem_order {order : List Step} {s : Course} {y : Except BridgeError α}
    (h : Takes c p param past order s y) {x : Step × Event Signer.interface} (hx : x ∈ s) :
    x.1 ∈ order := h.isPrefix.subset (List.mem_map_of_mem hx)

end Takes

/-! ### What each part of the program does -/

section Parts

variable {c : Client} {p : SendParams} {param : SendParam} {past : Course}
  {log : List (Event Signer.interface)}

theorem ends_ask (step : Step) {r : Signer.Request} {y : Except BridgeError (Signer.Reward r)}
    (h : Ends (c.ask step.text r).run log y) :
    (∃ e err, log = [e] ∧ e.request = r ∧ y = .error err ∧ step.outcome c e = .error err) ∨
    ∃ v asked answered, log = [⟨r, .ok v, asked, answered⟩] ∧ y = .ok v := by
  obtain ⟨x, asked, answered, rfl, rfl⟩ := Attempt.ends_request.1 h
  cases x with
  | error report => exact .inl ⟨_, _, rfl, rfl, rfl, rfl⟩
  | ok v => exact .inr ⟨v, asked, answered, rfl, rfl⟩

theorem ends_quoteFee {y : Except BridgeError MessagingFee}
    (h : Ends (c.quoteFee param).run log y) :
    (∃ report asked answered,
      log = [⟨.read c.token (.quoteSend param false), .error report, asked, answered⟩] ∧
        y = .error (.chainCall c.chain.name "get quote" report)) ∨
    ∃ value asked answered,
      log = [⟨.read c.token (.quoteSend param false), .ok value, asked, answered⟩] ∧
        y = MessagingFee.ofValue value := by
  obtain ⟨x, asked, answered, rfl, rfl⟩ := Attempt.ends_request_bind.1 h
  cases x with
  | error report => exact .inl ⟨report, asked, answered, rfl, rfl⟩
  | ok value => exact .inr ⟨value, asked, answered, rfl, rfl⟩

theorem takes_quoteFee (past : Course) {y : Except BridgeError MessagingFee}
    (h : Ends (c.quoteFee param).run log y) :
    ∃ e, log = [e] ∧ Takes c p param past [.quote] [(.quote, e)] y := by
  rcases ends_quoteFee h with ⟨report, _, _, rfl, rfl⟩ | ⟨value, _, _, rfl, rfl⟩
  · exact ⟨_, rfl, .single rfl rfl⟩
  · exact ⟨_, rfl, .single rfl rfl⟩

theorem takes_waitMined (step : Step) {hash : Hash} {y : Except BridgeError Receipt}
    (hs : step = .approved ∨ step = .confirmed) (ha : step.Asks c p param past (.wait hash))
    (h : Ends (c.waitMined step.text hash).run log y) :
    ∃ e, log = [e] ∧ Takes c p param past [step] [(step, e)] y ∧
      ∀ receipt, y = .ok receipt → receipt? e = some receipt ∧ receipt.status = true := by
  obtain ⟨x, asked, answered, rfl, hy⟩ := Attempt.ends_request_bind.1 h
  cases x with
  | error report =>
    obtain rfl : y = .error (.chainCall c.chain.name step.text report) := hy
    exact ⟨_, rfl, .single ha rfl, nofun⟩
  | ok receipt =>
    obtain rfl : y = if receipt.status then .ok receipt
      else .error (.transactionReverted c.chain.name hash) := hy
    refine ⟨_, rfl, .single ha ?_, ?_⟩
    · rcases hs with rfl | rfl <;> simp only [Step.outcome, Step.accept] <;> split <;> rfl
    · intro r hr
      split at hr
      · cases hr
        exact ⟨rfl, ‹_›⟩
      · cases hr

theorem takes_write (param : SendParam) (past : Course) {step : Step} {contract : Address}
    {call : Contract.Call} {value : Amount} {y : Except BridgeError Hash}
    (hs : step = .approval ∨ step = .submission)
    (ha : step.Asks c p param past (.write contract call value))
    (h : Ends (c.ask step.text (.write contract call value)).run log y) :
    ∃ e, log = [e] ∧ Takes c p param past [step] [(step, e)] y ∧
      ∀ hash, y = .ok hash → hash? e = some hash := by
  rcases ends_ask _ h with ⟨e, err, rfl, hr, rfl, ho⟩ | ⟨v, asked, answered, rfl, rfl⟩
  · exact ⟨e, rfl, .single (hr ▸ ha) ho, fun _ hy => by cases hy⟩
  · refine ⟨_, rfl, .single ha ?_, fun _ hy => by cases hy; rfl⟩
    rcases hs with rfl | rfl <;> rfl

/-- The allowance that was read suffices, or an approval of the amount was mined. -/
def Covered (p : SendParams) (course : Course) : Prop :=
  (∃ a current, (Step.allowance, a) ∈ course ∧ allowance? a = some current ∧
    p.quote.amount ≤ current) ∨
  ∃ m receipt, (Step.approved, m) ∈ course ∧ receipt? m = some receipt ∧ receipt.status = true

theorem Covered.mono {s t : Course} (hs : s ⊆ t) (h : Covered p s) : Covered p t := by
  rcases h with ⟨a, current, ha, h⟩ | ⟨m, receipt, hm, h⟩
  · exact .inl ⟨a, current, hs ha, h⟩
  · exact .inr ⟨m, receipt, hs hm, h⟩

theorem takes_approval {y : Except BridgeError Unit}
    (h : Ends (do
      let hash ← c.ask "approve" (.write c.token (.approve c.token p.quote.amount) 0)
      let _ ← c.waitMined "wait for approval" hash
      return ()).run log y) :
    ∃ course, course.map (·.2) = log ∧ Takes c p param past [.approval, .approved] course y ∧
      (y = .ok () → Covered p course) := by
  rcases Attempt.ends_bind.1 h with ⟨err, h₁, rfl⟩ | ⟨hash, l, l', rfl, h₁, h₂⟩
  · obtain ⟨w, rfl, hw, -⟩ := takes_write param past (.inl rfl) rfl h₁
    exact ⟨[(.approval, w)], rfl, hw.stop _, fun hy => by cases hy⟩
  obtain ⟨w, rfl, hw, hhash⟩ := takes_write param past (.inl rfl) rfl h₁
  have ha : Step.approved.Asks c p param (past ++ [(.approval, w)]) (.wait hash) :=
    ⟨w, hash, List.mem_append_right _ (List.mem_singleton.2 rfl), hhash _ rfl, rfl⟩
  rcases Attempt.ends_bind.1 h₂ with ⟨err, h₃, rfl⟩ | ⟨receipt, l, l₂, rfl, h₃, h₄⟩
  · obtain ⟨m, rfl, hm, -⟩ := takes_waitMined .approved (.inl rfl) ha h₃
    exact ⟨[(.approval, w), (.approved, m)], rfl, hw.append (hm.map fun _ => ()), nofun⟩
  obtain ⟨m, rfl, hm, hreceipt⟩ := takes_waitMined .approved (.inl rfl) ha h₃
  obtain ⟨rfl, rfl⟩ := Attempt.ends_pure.1 h₄
  refine ⟨[(.approval, w), (.approved, m)], rfl, hw.append (hm.map fun _ => ()), fun _ => ?_⟩
  refine .inr ⟨m, receipt, ?_⟩
  exact ⟨List.mem_cons_of_mem _ (List.mem_singleton.2 rfl), hreceipt receipt rfl⟩

/-- How a transfer ends after its steps: with their failure, or by the receipt. -/
def Concludes (y : Except BridgeError Unit) (result : Except BridgeError Transfer.Execution) :
    Prop :=
  match y with
  | .error e => result = .error e
  | .ok () => (∃ x, result = .ok x) ∨ ∃ hash, result = .error (.missingSentEvent hash)

theorem takes_ensureAllowance (past : Course) {y : Except BridgeError Unit}
    (h : Ends (c.ensureAllowance p.quote.amount).run log y) :
    ∃ order course, course.map (·.2) = log ∧
      (order = [.allowance] ∨ order = [.allowance, .approval, .approved]) ∧
      Takes c p param past order course y ∧ (y = .ok () → Covered p course) := by
  rcases Attempt.ends_bind.1 h with ⟨err, h₁, rfl⟩ | ⟨value, l, l', rfl, h₁, h₂⟩
  · rcases ends_ask .allowance h₁ with ⟨e, err, rfl, hr, he, ho⟩ | ⟨v, _, _, _, hv⟩
    · cases he
      exact ⟨_, [(.allowance, e)], rfl, .inl rfl, .single hr ho, fun hy => by cases hy⟩
    · cases hv
  rcases ends_ask .allowance h₁ with ⟨_, _, _, _, he, _⟩ | ⟨v, asked, answered, rfl, hv⟩
  · cases he
  cases hv
  rcases Attempt.ends_bind.1 h₂ with ⟨err, h₃, rfl⟩ | ⟨current, l, l₂, rfl, h₃, h₄⟩
  · obtain ⟨rfl, he⟩ := Attempt.ends_ofExcept.1 h₃
    refine ⟨_, [(.allowance, _)], rfl, .inl rfl, .single rfl ?_, fun hy => by cases hy⟩
    simp only [Step.outcome, Step.accept, ← he]
    rfl
  obtain ⟨rfl, hcur⟩ := Attempt.ends_ofExcept.1 h₃
  have hread : Takes c p param past [.allowance]
      [(.allowance, ⟨.read c.token (.allowance c.address c.token), .ok value, asked, answered⟩)]
      (.ok () : Except BridgeError Unit) := by
    refine .single rfl ?_
    simp only [Step.outcome, Step.accept, ← hcur]
    rfl
  split at h₄
  · rename_i hle
    obtain ⟨rfl, rfl⟩ := Attempt.ends_pure.1 h₄
    refine ⟨_, _, rfl, .inl rfl, hread, fun _ => .inl ?_⟩
    refine ⟨_, current, List.mem_singleton.2 rfl, ?_, hle⟩
    simp [allowance?, ← hcur, Except.toOption]
  · obtain ⟨course, rfl, ht, hc⟩ := takes_approval h₄
    refine ⟨_, _, List.map_append .., .inr rfl, hread.append ht, fun hy => ?_⟩
    exact (hc hy).mono (List.subset_append_right ..)

theorem takes_submission {fee : MessagingFee} {f : Hash → Hash → Transfer.Execution}
    {result : Except BridgeError Transfer.Execution}
    (h : Ends (do
      let hash ← c.ask "execute bridge"
        (.write c.token (.send param fee (p.refund.getD c.address)) fee.native)
      let receipt ← c.waitMined "wait for bridge transaction" hash
      let guid ← Attempt.ofExcept (messageGuid receipt)
      return f hash guid).run log result) :
    ∃ course, ∃ y : Except BridgeError Unit, course.map (·.2) = log ∧
      Takes c p param past [.submission, .confirmed] course y ∧ Concludes y result := by
  rcases Attempt.ends_bind.1 h with ⟨err, h₁, rfl⟩ | ⟨hash, l, l', rfl, h₁, h₂⟩
  · obtain ⟨w, rfl, hw, -⟩ := takes_write param past (.inr rfl) ⟨fee, rfl⟩ h₁
    exact ⟨[(.submission, w)], .error err, rfl, hw.stop _, rfl⟩
  obtain ⟨w, rfl, hw, hhash⟩ := takes_write param past (.inr rfl) ⟨fee, rfl⟩ h₁
  have ha : Step.confirmed.Asks c p param (past ++ [(.submission, w)]) (.wait hash) :=
    ⟨w, hash, List.mem_append_right _ (List.mem_singleton.2 rfl), hhash _ rfl, rfl⟩
  rcases Attempt.ends_bind.1 h₂ with ⟨err, h₃, rfl⟩ | ⟨receipt, l, l₂, rfl, h₃, h₄⟩
  · obtain ⟨m, rfl, hm, -⟩ := takes_waitMined .confirmed (.inr rfl) ha h₃
    exact ⟨[(.submission, w), (.confirmed, m)], _, rfl, hw.append (hm.map fun _ => ()), rfl⟩
  obtain ⟨m, rfl, hm, -⟩ := takes_waitMined .confirmed (.inr rfl) ha h₃
  rcases Attempt.ends_bind.1 h₄ with ⟨err, h₅, rfl⟩ | ⟨guid, l, l₃, rfl, h₅, h₆⟩
  · obtain ⟨rfl, he⟩ := Attempt.ends_ofExcept.1 h₅
    refine ⟨[(.submission, w), (.confirmed, m)], _, rfl, hw.append (hm.map fun _ => ()), .inr ?_⟩
    unfold messageGuid at he
    split at he
    · cases he
    · cases he
      exact ⟨_, rfl⟩
  · obtain ⟨rfl, -⟩ := Attempt.ends_ofExcept.1 h₅
    obtain ⟨rfl, rfl⟩ := Attempt.ends_pure.1 h₆
    exact ⟨[(.submission, w), (.confirmed, m)], _, rfl, hw.append (hm.map fun _ => ()),
      .inl ⟨_, rfl⟩⟩

end Parts

/-! ## The whole transfer -/

/-- A transfer with a parameter takes a course. -/
structure Sends (c : Client) (p : SendParams) (param : SendParam) (course : Course)
    (result : Except BridgeError Transfer.Execution) : Prop where
  /-- The steps are taken in one of the two orders, up to some point. -/
  order : course.map (·.1) <+: Step.direct ∨ course.map (·.1) <+: Step.raised
  asks : ∀ x ∈ course, x.1.Asks c p param course x.2.request
  covered : ∀ e, (.submission, e) ∈ course → Covered p course
  /-- The step that fails is the last and tells the error; where none fails the order is completed,
  and the receipt has the message id or not. -/
  told : (∃ e, course.Fails c e ∧ result = .error e) ∨
    course.Passes c ∧ (course.map (·.1) = Step.direct ∨ course.map (·.1) = Step.raised) ∧
      ((∃ x, result = .ok x) ∨ ∃ hash, result = .error (.missingSentEvent hash))

theorem Takes.sends {c : Client} {p : SendParams} {param : SendParam} {order : List Step}
    {course : Course} {y : Except BridgeError Unit}
    {result : Except BridgeError Transfer.Execution} (h : Takes c p param [] order course y)
    (ho : order = Step.direct ∨ order = Step.raised)
    (hc : ∀ e, (.submission, e) ∈ course → Covered p course) (hy : Concludes y result) :
    Sends c p param course result where
  order := by
    rcases ho with rfl | rfl
    · exact .inl h.isPrefix
    · exact .inr h.isPrefix
  asks := h.asks
  covered := hc
  told := by
    cases y with
    | error e => exact .inl ⟨e, h.told, hy⟩
    | ok a => exact .inr ⟨h.told, ho.imp (h.whole a rfl).trans (h.whole a rfl).trans, hy⟩

theorem Client.plan_effective (c : Client) (p : Transfer.QuoteParams) (s : Number.Binary64)
    (gasLimit : Option (BitVec 128)) :
    c.plan p (Slippage.effective s) gasLimit = c.plan p s gasLimit := by
  simp only [Client.plan, Transfer.sendParam, Slippage.minAmount_effective]

/-- A transfer that cannot be planned asks nothing. -/
theorem ends_send_of_plan_eq_error {c : Client} {p : SendParams} {e : BridgeError}
    {log : List (Event Signer.interface)} {result : Except BridgeError Transfer.Execution}
    (hp : c.plan p.quote p.slippage p.gasLimit = .error e) (h : Ends (c.send p).run log result) :
    log = [] ∧ result = .error e := by
  unfold Client.send at h
  rw [Client.plan_effective, hp] at h
  rcases Attempt.ends_bind.1 h with ⟨_, h₀, rfl⟩ | ⟨_, _, _, _, h₀, _⟩
  · obtain ⟨hl, he⟩ := Attempt.ends_ofExcept.1 h₀
    cases he
    exact ⟨hl, rfl⟩
  · cases (Attempt.ends_ofExcept.1 h₀).2

theorem sends_of_ends {c : Client} {p : SendParams} {destination : Chain} {param : SendParam}
    {log : List (Event Signer.interface)} {result : Except BridgeError Transfer.Execution}
    (hp : c.plan p.quote p.slippage p.gasLimit = .ok (destination, param))
    (h : Ends (c.send p).run log result) :
    ∃ course, course.map (·.2) = log ∧ Sends c p param course result := by
  unfold Client.send at h
  rw [Client.plan_effective, hp] at h
  rcases Attempt.ends_bind.1 h with ⟨_, h₀, _⟩ | ⟨x, l, l', rfl, h₀, h₁⟩
  · cases (Attempt.ends_ofExcept.1 h₀).2
  obtain ⟨rfl, hx⟩ := Attempt.ends_ofExcept.1 h₀
  cases hx
  rcases Attempt.ends_bind.1 h₁ with ⟨err, h₂, rfl⟩ | ⟨fee, l, l₁, rfl, h₂, h₃⟩
  · obtain ⟨q, rfl, hq⟩ := takes_quoteFee (p := p) [] h₂
    refine ⟨_, rfl, (hq.stop [.allowance, .submission, .confirmed]).sends
      (y := .error err) (.inl rfl) ?_ rfl⟩
    intro e he
    simp at he
  obtain ⟨q, rfl, hq⟩ := takes_quoteFee (p := p) [] h₂
  rcases Attempt.ends_bind.1 h₃ with ⟨err, h₄, rfl⟩ | ⟨_, l, l₂, rfl, h₄, h₅⟩
  · obtain ⟨order, s, rfl, ho, hs, -⟩ := takes_ensureAllowance [(.quote, q)] h₄
    have ht := hq.append (hs.stop (β := Unit) [.submission, .confirmed])
    refine ⟨_, rfl, ht.sends ?_ ?_ rfl⟩
    · rcases ho with rfl | rfl <;> simp [Step.direct, Step.raised]
    · intro e he
      rcases List.mem_append.1 he with he | he
      · simp at he
      · have := hs.mem_order he
        rcases ho with rfl | rfl <;> simp at this
  obtain ⟨order, s, rfl, ho, hs, hc⟩ := takes_ensureAllowance [(.quote, q)] h₄
  obtain ⟨t, y, rfl, ht, hy⟩ := takes_submission h₅
  refine ⟨[(.quote, q)] ++ (s ++ t), by simp, (hq.append (hs.append ht)).sends ?_ ?_ hy⟩
  · rcases ho with rfl | rfl <;> simp [Step.direct, Step.raised]
  · intro e _
    exact (hc rfl).mono fun x hx => by simp [hx]

def submits : Signer.Request → Bool
  | .write .. => true
  | _ => false

/-- The request quotes or submits a transfer with the parameter. -/
inductive Carries (param : SendParam) : Signer.Request → Prop where
  | quote (contract : Address) (pay : Bool) :
    Carries param (.read contract (.quoteSend param pay))
  | submission (contract : Address) (fee : MessagingFee) (refund : Address) (value : Amount) :
    Carries param (.write contract (.send param fee refund) value)

theorem Step.Asks.eq_of_submits {c : Client} {p : SendParams} {param : SendParam} {course : Course}
    {s t : Step} {r : Signer.Request} (hs : s.Asks c p param course r)
    (ht : t.Asks c p param course r) (hw : submits r = true) : s = t := by
  cases s with
  | quote | allowance => cases hs; cases hw
  | approved | confirmed => obtain ⟨_, _, _, _, rfl⟩ := hs; cases hw
  | approval =>
    cases hs
    cases t with
    | approval => rfl
    | quote | allowance => cases ht
    | approved | confirmed => obtain ⟨_, _, _, _, h⟩ := ht; cases h
    | submission => obtain ⟨_, h⟩ := ht; cases h
  | submission =>
    obtain ⟨_, rfl⟩ := hs
    cases t with
    | submission => rfl
    | quote | allowance | approval => cases ht
    | approved | confirmed => obtain ⟨_, _, _, _, h⟩ := ht; cases h

/-- Calls are submitted to the token contract, and the transfer only with its parameter. -/
theorem Step.Asks.write {c : Client} {p : SendParams} {param : SendParam} {course : Course}
    {s : Step} {contract : Address} {call : Contract.Call} {value : Amount}
    (h : s.Asks c p param course (.write contract call value)) :
    contract = c.token ∧ ∀ param' fee refund, call = .send param' fee refund → param' = param := by
  cases s with
  | quote | allowance => cases h
  | approved | confirmed => obtain ⟨_, _, _, _, h⟩ := h; cases h
  | approval =>
    cases h
    exact ⟨rfl, nofun⟩
  | submission =>
    obtain ⟨fee, h⟩ := h
    cases h
    refine ⟨rfl, fun _ _ _ h => ?_⟩
    cases h
    rfl

theorem Step.Asks.carries {c : Client} {p : SendParams} {param param' : SendParam} {course : Course}
    {s : Step} {r : Signer.Request} (h : s.Asks c p param course r)
    (hr : Carries param' r) : param' = param := by
  cases s with
  | quote =>
    cases h
    cases hr
    rfl
  | allowance | approval =>
    cases h
    cases hr
  | approved | confirmed =>
    obtain ⟨_, _, _, _, rfl⟩ := h
    cases hr
  | submission =>
    obtain ⟨_, rfl⟩ := h
    cases hr
    rfl

/-- No call is submitted twice. -/
theorem Sends.once {c : Client} {p : SendParams} {param : SendParam} {course : Course}
    {result : Except BridgeError Transfer.Execution} (h : Sends c p param course result) :
    (course.map (·.2)).Pairwise fun a b => submits a.request = true → a.request ≠ b.request := by
  have hsteps : (course.map (·.1)).Nodup := by
    rcases h.order with ho | ho
    · exact ho.sublist.nodup (by decide)
    · exact ho.sublist.nodup (by decide)
  rw [List.pairwise_map]
  refine (List.pairwise_map.1 hsteps).imp_of_mem ?_
  intro x y hx hy hne hw heq
  exact hne ((h.asks x hx).eq_of_submits (heq ▸ h.asks y hy) hw)

theorem Sends.write {c : Client} {p : SendParams} {param : SendParam} {course : Course}
    {result : Except BridgeError Transfer.Execution} {e : Event Signer.interface}
    {contract : Address} {call : Contract.Call} {value : Amount}
    (h : Sends c p param course result) (he : e ∈ course.map (·.2))
    (hreq : e.request = .write contract call value) :
    contract = c.token ∧ ∀ param' fee refund, call = .send param' fee refund → param' = param := by
  obtain ⟨x, hx, rfl⟩ := List.mem_map.1 he
  have hasks := h.asks x hx
  rw [hreq] at hasks
  exact hasks.write

/-! ## Failures and results -/

/-- Told of a transfer that was not begun. -/
def IsRefusal (e : BridgeError) : Prop :=
  e.isValidation = true ∨ ∃ amount destination, e = .noRoute amount destination

theorem not_isRefusal_decode (what detail : String) : ¬ IsRefusal (.decode what detail) := by
  rintro (h | ⟨_, _, h⟩) <;> cases h

theorem eq_error_of_map {α β : Type} {f : α → β} {y : Except BridgeError α} {e : BridgeError}
    (h : y.map f = .error e) : y = .error e := by
  cases y with
  | ok a => cases h
  | error e' =>
    cases h
    rfl

theorem eq_ok_of_map {α β : Type} {f : α → β} {y : Except BridgeError α} {b : β}
    (h : y.map f = .ok b) : ∃ a, y = .ok a ∧ f a = b := by
  cases y with
  | error e => cases h
  | ok a => exact ⟨a, rfl, Except.ok.inj h⟩

theorem Step.not_isRefusal {c : Client} {step : Step} {e : Event Signer.interface}
    {err : BridgeError} (h : step.outcome c e = .error err) : ¬ IsRefusal err := by
  obtain ⟨r, x | x, asked, answered⟩ := e
  · cases h
    rintro (h | ⟨_, _, h⟩) <;> cases h
  · have h : step.accept c r x = .error err := h
    cases step with
    | approval | submission => cases h
    | quote =>
      cases r with
      | write | wait => cases h
      | read =>
        obtain ⟨detail, rfl⟩ := MessagingFee.ofValue_eq_error (eq_error_of_map h)
        exact not_isRefusal_decode _ _
    | allowance =>
      cases r with
      | write | wait => cases h
      | read =>
        obtain ⟨detail, rfl⟩ := Contract.Value.toAmount_eq_error (eq_error_of_map h)
        exact not_isRefusal_decode _ _
    | approved | confirmed =>
      cases r with
      | read | write => cases h
      | wait hash =>
        have h : (if Receipt.status x then .ok ()
            else .error (.transactionReverted c.chain.name hash)) =
          (.error err : Except BridgeError Unit) := h
        split at h
        · cases h
        · cases h
          rintro (h | ⟨_, _, h⟩) <;> cases h

/-- A transfer that is begun does not end with a refusal. -/
theorem Sends.not_isRefusal {c : Client} {p : SendParams} {param : SendParam} {course : Course}
    {e : BridgeError} (h : Sends c p param course (.error e)) : ¬ IsRefusal e := by
  rcases h.told with ⟨err, ⟨_, x, -, -, hx⟩, heq⟩ | ⟨-, -, ⟨x, heq⟩ | ⟨hash, heq⟩⟩
  · cases heq
    exact Step.not_isRefusal hx
  · cases heq
  · cases heq
    rintro (h | ⟨_, _, h⟩) <;> cases h

theorem execution_of_ends {c : Client} {p : SendParams} {log : List (Event Signer.interface)}
    {x : Transfer.Execution} {destination : Chain} {param : SendParam}
    (hp : c.plan p.quote p.slippage p.gasLimit = .ok (destination, param))
    (h : Ends (c.send p).run log (.ok x)) :
    x.sent = p.quote.amount ∧ x.received = param.minAmount ∧ x.source = c.chain.name ∧
      x.destination = destination.name ∧ x.seconds = Chain.deliveryTime c.chain destination := by
  unfold Client.send at h
  rw [Client.plan_effective, hp] at h
  obtain ⟨_, _, _, -, hplan, h⟩ := Attempt.ends_bind_ok.1 h
  cases (Attempt.ends_ofExcept.1 hplan).2
  obtain ⟨fee, _, _, -, -, h⟩ := Attempt.ends_bind_ok.1 h
  obtain ⟨-, _, _, -, -, h⟩ := Attempt.ends_bind_ok.1 h
  obtain ⟨hash, _, _, -, -, h⟩ := Attempt.ends_bind_ok.1 h
  obtain ⟨receipt, _, _, -, -, h⟩ := Attempt.ends_bind_ok.1 h
  obtain ⟨guid, _, _, -, -, h⟩ := Attempt.ends_bind_ok.1 h
  obtain ⟨-, heq⟩ := Attempt.ends_pure.1 h
  cases heq
  exact ⟨rfl, rfl, rfl, rfl, rfl⟩

theorem Client.plan_eq_error {c : Client} {p : Transfer.QuoteParams}
    (h : (∃ e, c.validate p = .error e) ∨ ∃ e, Address.read p.recipient = .error e)
    (slippage : Number.Binary64) (gasLimit : Option (BitVec 128)) :
    ∃ e, c.plan p slippage gasLimit = .error e := by
  unfold Client.plan
  split
  · exact ⟨_, rfl⟩
  · next hv =>
    rcases h with ⟨e, he⟩ | ⟨e, he⟩
    · rw [hv] at he; cases he
    · simp only [Transfer.sendParam, Transfer.recipientHash, he]
      exact ⟨_, rfl⟩

theorem Client.plan_eq_ok {c : Client} {p : Transfer.QuoteParams} {slippage : Number.Binary64}
    {gasLimit : Option (BitVec 128)} {destination : Chain} {param : SendParam}
    (h : c.plan p slippage gasLimit = .ok (destination, param)) :
    Transfer.sendParam destination p.amount p.recipient slippage gasLimit = .ok param := by
  unfold Client.plan at h
  split at h
  · cases h
  · obtain ⟨_, hparam, heq⟩ := eq_ok_of_map h
    cases heq
    exact hparam

/-- Whoever answers for the signer, the requests of a transfer are a course: nothing is asked for a
transfer that cannot be made, and a call is submitted once. -/
theorem Client.send_takes_course {σ : Type} (h : Handler Signer.interface σ) (c : Client)
    (p : SendParams) (now : Nat) (s : σ) :
    let run := Program.run h (c.send p).run now s
    (∀ e, c.plan p.quote p.slippage p.gasLimit = .error e →
      run.events = [] ∧ run.result = .error e) ∧
    (∀ destination param, c.plan p.quote p.slippage p.gasLimit = .ok (destination, param) →
      ∃ course, course.map (·.2) = run.events ∧ Sends c p param course run.result) ∧
    run.events.Pairwise (fun a b => submits a.request = true → a.request ≠ b.request) ∧
    ((∃ e, c.validate p.quote = .error e) ∨ (∃ e, Address.read p.quote.recipient = .error e) →
      run.events = []) := by
  intro run
  have hrun : Ends (c.send p).run run.events run.result := Program.ends_run h _ now s
  have hrefused : ∀ e, c.plan p.quote p.slippage p.gasLimit = .error e →
      run.events = [] ∧ run.result = .error e := fun e he => ends_send_of_plan_eq_error he hrun
  refine ⟨hrefused, fun _ _ hp => sends_of_ends hp hrun, ?_, ?_⟩
  · cases hp : c.plan p.quote p.slippage p.gasLimit with
    | error e =>
      rw [(hrefused e hp).1]
      exact .nil
    | ok x =>
      obtain ⟨course, hl, hs⟩ := sends_of_ends hp hrun
      rw [← hl]
      exact hs.once
  · intro hv
    obtain ⟨e, he⟩ := Client.plan_eq_error hv p.slippage p.gasLimit
    exact (hrefused e he).1

/-- Where the signer has allowed nothing, the approval comes before the submission. -/
theorem Client.send_takes_course_raised :
    let c : Client := ⟨.arbitrum, .zero⟩
    let p : SendParams :=
      { quote := ⟨"arbitrum", "ink", 1000, "0x1234567890123456789012345678901234567890"⟩ }
    let signer : Scripted.Signer := { fee := 7 }
    let run := Program.run Scripted.Signer.handler (c.send p).run 0 signer
    ∃ destination param course,
      c.plan p.quote p.slippage p.gasLimit = .ok (destination, param) ∧
      course.map (·.2) = run.events ∧ Sends c p param course run.result ∧
      course.map (·.1) = Step.raised := by
  intro c p signer run
  obtain ⟨-, hcourse, -⟩ := Client.send_takes_course Scripted.Signer.handler c p 0 signer
  have hplan : (c.plan p.quote p.slippage p.gasLimit).toBool = true := by decide +kernel
  obtain ⟨⟨destination, param⟩, hp⟩ := exists_ok_of_toBool hplan
  obtain ⟨course, hevents, hs⟩ := hcourse destination param hp
  refine ⟨destination, param, course, hp, hevents, hs, ?_⟩
  have hlength : (course.map (·.1)).length = 6 := by
    rw [List.length_map, ← List.length_map (·.2), hevents]
    decide +kernel
  rcases hs.order with horder | horder
  · exact absurd (hlength ▸ horder.length_le) (by decide)
  · exact horder.eq_of_length hlength

end TokenBridge.Bridge
