import TokenBridge.Proofs.Agreement
import TokenBridge.Proofs.Program.Alike

/-!
# Announced messages

A log announces a message if its first topic is that of the event of a sent
message and another topic follows it, the message id. A transfer reports the id
that the first such log of its receipt announces, and it is not asked which
contract emitted the log. So the logs of a receipt matter by their first
announcement alone: others may be added that announce nothing, or behind it, and
one that is put in front of it takes its place, whoever emits it
(`Client.guid_announced`).

Two runs of a transfer are compared, the second with the logs of each receipt
replaced (`alike_send`).
-/

namespace TokenBridge.Bridge

/-! ## Logs -/

def announced? (log : Log) : Option Hash :=
  match log.topics with
  | topic :: guid :: _ => if topic = Contract.sentEventTopic then some guid else none
  | _ => none

/-- The first announcement among logs is that of the message. -/
def Announces (logs : List Log) (guid : Hash) : Prop :=
  ∃ before log after, logs = before ++ log :: after ∧ announced? log = some guid ∧
    ∀ other ∈ before, announced? other = none

/-- The second logs are the first with others added, which announce nothing as long as they stand
in front of the first announcement. -/
inductive Padded : List Log → List Log → Prop where
  | nil : Padded [] []
  | kept {logs logs' : List Log} (log : Log) : Padded logs logs' →
      Padded (log :: logs) (log :: logs')
  | silent {logs logs' : List Log} {log : Log} : announced? log = none → Padded logs logs' →
      Padded logs (log :: logs')
  | behind {log : Log} {guid : Hash} (logs logs' : List Log) : announced? log = some guid →
      Padded (log :: logs) (log :: logs')

theorem messageGuid?_eq (logs : List Log) : messageGuid? logs = logs.findSome? announced? := rfl

theorem messageGuid?_eq_some {logs : List Log} {guid : Hash} :
    messageGuid? logs = some guid ↔ Announces logs guid := List.findSome?_eq_some_iff

theorem messageGuid?_eq_none {logs : List Log} :
    messageGuid? logs = none ↔ ∀ log ∈ logs, announced? log = none := List.findSome?_eq_none_iff

theorem Padded.messageGuid?_eq {logs logs' : List Log} (h : Padded logs logs') :
    messageGuid? logs' = messageGuid? logs := by
  induction h with
  | nil => rfl
  | kept log _ ih =>
    simp only [Bridge.messageGuid?_eq, List.findSome?_cons] at ih ⊢
    rw [ih]
  | silent hlog _ ih =>
    simp only [Bridge.messageGuid?_eq, List.findSome?_cons, hlog] at ih ⊢
    exact ih
  | behind _ _ hlog => simp only [Bridge.messageGuid?_eq, List.findSome?_cons, hlog]

/-! ## Receipts -/

def relogged (logs : Receipt → List Log) (r : Receipt) : Receipt := { r with logs := logs r }

/-- The answers of a signer with the logs of each receipt replaced. -/
def withLogs (logs : Receipt → List Log) :
    (r : Signer.Request) → Signer.interface.Answer r → Signer.interface.Answer r
  | .wait _, x => Except.map (relogged logs) x
  | .read .., x => x
  | .write .., x => x

/-- The last event is the receipt of the transaction, which was not reverted. -/
def Confirmed (log : List (Event Signer.interface)) (hash : Hash) (receipt : Receipt) : Prop :=
  ∃ e, log.getLast? = some e ∧ e.request = .wait hash ∧ receipt? e = some receipt ∧
    receipt.status = true

/-- What is reported of a transfer once its receipt is there: the terms with the message id that
is found in the logs. -/
def reportOf (x : Transfer.Execution) (receipt : Receipt) : Except BridgeError Transfer.Execution :=
  (messageGuid receipt).map fun guid => { x with guid := guid.text }

theorem reportOf_of_some {x : Transfer.Execution} {receipt : Receipt} {guid : Hash}
    (h : messageGuid? receipt.logs = some guid) :
    reportOf x receipt = .ok { x with guid := guid.text } := by
  rw [reportOf, messageGuid, h]
  rfl

theorem reportOf_of_none {x : Transfer.Execution} {receipt : Receipt}
    (h : messageGuid? receipt.logs = none) :
    reportOf x receipt = .error (.missingSentEvent receipt.hash) := by
  rw [reportOf, messageGuid, h]
  rfl

theorem reportOf_guid (x : Transfer.Execution) (text : String) (receipt : Receipt) :
    reportOf { x with guid := text } receipt = reportOf x receipt := by
  unfold reportOf
  rfl

/-- How two transfers end of which the second reads other logs: they fail alike before a message id
is looked for, or they look for it in the logs of the last receipt. -/
inductive Reported (logs : Receipt → List Log) (log : List (Event Signer.interface))
    (y y' : Except BridgeError Transfer.Execution) : Prop where
  | failed {e : BridgeError} : (∀ hash, e ≠ .missingSentEvent hash) → y = .error e →
      y' = .error e → Reported logs log y y'
  | mined {x : Transfer.Execution} {receipt : Receipt} : Confirmed log x.hash receipt →
      y = reportOf x receipt → y' = reportOf x (relogged logs receipt) → Reported logs log y y'

theorem Reported.of_ok {logs : Receipt → List Log} {log : List (Event Signer.interface)}
    {x : Transfer.Execution} {y' : Except BridgeError Transfer.Execution}
    (h : Reported logs log (.ok x) y') :
    ∃ receipt guid, Confirmed log x.hash receipt ∧ messageGuid? receipt.logs = some guid ∧
      x.guid = guid.text ∧ y' = reportOf x (relogged logs receipt) := by
  rcases h with ⟨-, hy, -⟩ | ⟨hc, hy, rfl⟩
  · cases hy
  next receipt =>
  cases hg : messageGuid? receipt.logs with
  | none =>
    rw [reportOf_of_none hg] at hy
    cases hy
  | some guid =>
    rw [reportOf_of_some hg] at hy
    cases hy
    exact ⟨receipt, guid, hc, hg, rfl, (reportOf_guid ..).symm⟩

theorem Reported.of_missing {logs : Receipt → List Log} {log : List (Event Signer.interface)}
    {hash : Hash} {y' : Except BridgeError Transfer.Execution}
    (h : Reported logs log (.error (.missingSentEvent hash)) y') :
    ∃ receipt x, Confirmed log x.hash receipt ∧ messageGuid? receipt.logs = none ∧
      receipt.hash = hash ∧ y' = reportOf x (relogged logs receipt) := by
  rcases h with ⟨he, hy, -⟩ | ⟨hc, hy, rfl⟩
  · cases hy
    exact absurd rfl (he hash)
  next x receipt =>
  cases hg : messageGuid? receipt.logs with
  | none =>
    rw [reportOf_of_none hg] at hy
    cases hy
    exact ⟨receipt, x, hc, hg, rfl, rfl⟩
  | some guid =>
    rw [reportOf_of_some hg] at hy
    cases hy

theorem reportOf_relogged {logs : Receipt → List Log} {x : Transfer.Execution} {receipt : Receipt}
    (h : messageGuid? (logs receipt) = messageGuid? receipt.logs) :
    reportOf x (relogged logs receipt) = reportOf x receipt := by
  rw [reportOf, reportOf, messageGuid, messageGuid, relogged, h]

section Alike

variable {c : Client} {logs : Receipt → List Log}

/-- Attempts that fail alike, a missing announcement aside, or have related values. -/
abbrev Alike {α β : Type} (logs : Receipt → List Log)
    (R : List (Event Signer.interface) → α → β → Prop) (p : Client.Work α) (q : Client.Work β) :
    Prop :=
  Attempt.Alike (withLogs logs) (fun e => ∀ hash, e ≠ BridgeError.missingSentEvent hash) R p q

theorem alike_ofExcept {α : Type} {x : Except BridgeError α}
    (h : ∀ e, x = .error e → ∀ hash, e ≠ .missingSentEvent hash) :
    Alike logs (fun _ => Eq) (Attempt.ofExcept x) (Attempt.ofExcept x) := by
  refine .done ?_
  cases x with
  | error e => exact .error (h e rfl)
  | ok a => exact .ok rfl

theorem alike_ask (step : String) {r : Signer.Request} (h : ∀ x, withLogs logs r x = x) :
    Alike logs (fun _ => Eq) (c.ask step r) (c.ask step r) := by
  refine Attempt.alike_request fun x _ _ => ?_
  rw [h]
  cases x with
  | error report => exact .error nofun
  | ok v => exact .ok rfl

theorem alike_quoteFee (param : Contract.SendParam) :
    Alike logs (fun _ => Eq) (c.quoteFee param) (c.quoteFee param) := by
  refine Attempt.alike_bind (alike_ask _ fun _ => rfl) (fun _ _ h => .error h) ?_
  rintro _ value _ rfl
  refine alike_ofExcept fun e he => ?_
  obtain ⟨detail, rfl⟩ := Contract.MessagingFee.ofValue_eq_error he
  exact nofun

theorem alike_waitMined (step : String) (hash : Hash) :
    Alike logs (fun log receipt receipt' => Confirmed log hash receipt ∧
      receipt' = relogged logs receipt) (c.waitMined step hash) (c.waitMined step hash) := by
  refine Attempt.alike_bind (R := fun log receipt receipt' =>
      (∃ e : Event Signer.interface, log = [e] ∧ e.request = .wait hash ∧
        receipt? e = some receipt) ∧ receipt' = relogged logs receipt)
    (Attempt.alike_request fun x asked answered => ?_) (fun _ _ h => .error h) ?_
  · cases x with
    | error report => exact .error nofun
    | ok receipt => exact .ok ⟨⟨_, rfl, rfl, rfl⟩, rfl⟩
  · rintro _ receipt _ ⟨⟨e, rfl, hr, hreceipt⟩, rfl⟩
    refine .done ?_
    show Paired _ _ (if receipt.status then _ else _) (if receipt.status then _ else _)
    split
    · next hstatus => exact .ok ⟨⟨e, rfl, hr, hreceipt, hstatus⟩, rfl⟩
    · exact .error nofun

theorem alike_ensureAllowance (amount : Amount) :
    Alike logs (fun _ => Eq) (c.ensureAllowance amount) (c.ensureAllowance amount) := by
  refine Attempt.alike_bind (alike_ask _ fun _ => rfl) (fun _ _ h => .error h) ?_
  rintro _ value _ rfl
  refine Attempt.alike_bind (alike_ofExcept fun e he => ?_) (fun _ _ h => .error h) ?_
  · obtain ⟨detail, rfl⟩ := Contract.Value.toAmount_eq_error he
    exact nofun
  rintro _ current _ rfl
  split
  · exact .done (.ok rfl)
  refine Attempt.alike_bind (alike_ask _ fun _ => rfl) (fun _ _ h => .error h) ?_
  rintro _ hash _ rfl
  exact Attempt.alike_bind (alike_waitMined _ hash) (fun _ _ h => .error h) fun _ _ _ _ =>
    .done (.ok rfl)

theorem run_reported {x : Except BridgeError Hash} {f : Hash → Transfer.Execution} :
    (do
      let guid ← Attempt.ofExcept x
      return f guid : Client.Work Transfer.Execution).run = .done (x.map f) := by
  cases x <;> rfl

/-- A transfer asks the same whichever logs its receipts hold, and looks for the message id in
those of the last. -/
theorem alike_send (p : Transfer.SendParams) :
    Program.Alike (withLogs logs) (Reported logs) (c.send p).run (c.send p).run := by
  have hfailed : ∀ l e, (∀ hash, e ≠ .missingSentEvent hash) →
      Reported logs l (.error e) (.error e) := fun _ _ he => .failed he rfl rfl
  refine Attempt.alike_bind (alike_ofExcept fun e he => ?_) hfailed ?_
  · have := Client.isValidation_of_plan he
    rintro hash rfl
    cases this
  rintro l₁ ⟨destination, param⟩ _ rfl
  refine Attempt.alike_bind (alike_quoteFee param) (fun _ => hfailed _) ?_
  rintro l₂ fee _ rfl
  refine Attempt.alike_bind (alike_ensureAllowance _) (fun _ => hfailed _) ?_
  rintro l₃ _ _ rfl
  refine Attempt.alike_bind (alike_ask _ fun _ => rfl) (fun _ => hfailed _) ?_
  rintro l₄ hash _ rfl
  refine Attempt.alike_bind (alike_waitMined _ hash) (fun _ => hfailed _) ?_
  rintro l₅ receipt _ ⟨⟨e, he, hreceipt⟩, rfl⟩
  rw [run_reported, run_reported]
  have hlast : (l₁ ++ (l₂ ++ (l₃ ++ (l₄ ++ (l₅ ++ []))))).getLast? = some e := by
    simp [List.getLast?_append, he]
  let x : Transfer.Execution :=
    { hash
      guid := ""
      sent := p.quote.amount
      received := param.minAmount
      source := c.chain.name
      destination := destination.name
      seconds := Chain.deliveryTime c.chain destination }
  exact .done (.mined (x := x) ⟨e, hlast, hreceipt⟩ rfl rfl)

end Alike

/-! ## The message id of a transfer -/

/-- Whoever answers, a transfer reports the message that its receipt announces first, and tells of
a missing one where no log of the receipt announces any. Logs that are added to receipts make no
difference, as long as none announces a message in front of that announcement. One in front of all
others takes its place: of no log it is asked which contract emitted it. -/
theorem Client.guid_announced {σ : Type} (h : Handler Signer.interface σ) (c : Client)
    (p : Transfer.SendParams) (now : Nat) (s : σ) :
    let run := Program.run h (c.send p).run now s
    let result := fun logs : Receipt → List Log =>
      (Program.run (h.changing (withLogs logs)) (c.send p).run now s).result
    (∀ x, run.result = .ok x → ∃ receipt guid, Confirmed run.events x.hash receipt ∧
      Announces receipt.logs guid ∧ x.guid = guid.text) ∧
    (∀ hash, run.result = .error (.missingSentEvent hash) →
      ∃ sent receipt, Confirmed run.events sent receipt ∧ receipt.hash = hash ∧
        ∀ log ∈ receipt.logs, announced? log = none) ∧
    (∀ logs, (∀ receipt, Padded receipt.logs (logs receipt)) → result logs = run.result) ∧
    ∀ log guid, announced? log = some guid →
      (∀ x, run.result = .ok x →
        result (fun receipt => log :: receipt.logs) = .ok { x with guid := guid.text }) ∧
      ∀ hash, run.result = .error (.missingSentEvent hash) →
        ∃ x, result (fun receipt => log :: receipt.logs) = .ok x ∧ x.guid = guid.text := by
  intro run result
  have hreported : ∀ logs, Reported logs run.events run.result (result logs) := fun logs =>
    (alike_send p).run h now s
  refine ⟨fun x hx => ?_, fun hash hx => ?_, fun logs hpad => ?_, fun log guid hlog => ?_⟩
  · obtain ⟨receipt, guid, hc, hg, hx, -⟩ := (hx ▸ hreported (·.logs)).of_ok
    exact ⟨receipt, guid, hc, messageGuid?_eq_some.1 hg, hx⟩
  · obtain ⟨receipt, x, hc, hg, hhash, -⟩ := (hx ▸ hreported (·.logs)).of_missing
    exact ⟨x.hash, receipt, hc, hhash, messageGuid?_eq_none.1 hg⟩
  · rcases hreported logs with ⟨-, hy, hy'⟩ | ⟨-, hy, hy'⟩
    · rw [hy, hy']
    · rw [hy, hy', reportOf_relogged (hpad _).messageGuid?_eq]
  · have hfirst : ∀ receipt : Receipt, messageGuid? (log :: receipt.logs) = some guid := by
      intro receipt
      rw [messageGuid?_eq, List.findSome?_cons, hlog]
    refine ⟨fun x hx => ?_, fun hash hx => ?_⟩
    · obtain ⟨receipt, _, -, -, -, hy'⟩ := (hx ▸ hreported fun r => log :: r.logs).of_ok
      exact hy'.trans (reportOf_of_some (hfirst receipt))
    · obtain ⟨receipt, x, -, -, -, hy'⟩ := (hx ▸ hreported fun r => log :: r.logs).of_missing
      exact ⟨_, hy'.trans (reportOf_of_some (hfirst receipt)), rfl⟩

/-- Another contract announces a message in front of the announcement of the token contract, and a
transfer from arbitrum reports that message. -/
theorem Client.guid_of_another_contract :
    let c : Client := ⟨.arbitrum, .zero⟩
    let p : Transfer.SendParams :=
      { quote := ⟨"arbitrum", "ink", 1000, "0x1234567890123456789012345678901234567890"⟩ }
    let own : Log := ⟨c.token, [Contract.sentEventTopic, ⟨0x22⟩], []⟩
    let foreign : Log := ⟨⟨0xaa⟩, [Contract.sentEventTopic, ⟨0x11⟩], []⟩
    let guid := fun logs =>
      let signer : Scripted.Signer :=
        { allowance := 1000, receipts := [some ⟨true, ⟨1⟩, logs⟩] }
      (Program.run Scripted.Signer.handler (c.send p).run 0 signer).result.map (·.guid)
    foreign.address ≠ c.token ∧ guid [own] = .ok (Hash.text ⟨0x22⟩) ∧
      guid [foreign, own] = .ok (Hash.text ⟨0x11⟩) ∧ guid [foreign, own] ≠ guid [own] := by
  decide +kernel

end TokenBridge.Bridge
