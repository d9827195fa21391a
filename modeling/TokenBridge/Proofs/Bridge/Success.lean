import TokenBridge.Proofs.Bridge.Announcement
import TokenBridge.Proofs.Spelling

/-!
# Successful transfers

A transfer succeeds when every step of its course has passed and the receipt at
the end announces a message. A course that has passed ends with the receipt of
the submitted transfer (`Sends.mined`), and what is told of a transfer with such
a receipt is read off it: the hash is the one that the submission was answered
with, the message id the one that is announced first, the rest is what was asked
for (`Client.send_succeeds`). A mined transfer without an announcement is told
as that, and never as a result.
-/

namespace TokenBridge

open Contract (SendParam)
open Program (Ends)
open Transfer (SendParams)

theorem Registered.eq_lowerCase {source destination : String} {leg : String × String}
    (h : Registered (some source) destination leg) :
    leg = (Text.lowerCase source, Text.lowerCase destination) := by
  have hname : ∀ {name : String} {chain : Chain}, Chain.lookup name = some chain →
      chain.name = Text.lowerCase name := by
    intro name chain hl
    rw [← Text.lowerCase_eq_of_sameText (Chain.sameText_of_lookup hl), Chain.lowerCase_name]
  obtain ⟨⟨s, hs, hsource⟩, ⟨d, hd, hdestination⟩⟩ := h
  rw [← hname (hsource source rfl), ← hname hdestination, hs, hd]

namespace Bridge

variable {c : Client} {p : SendParams} {param : SendParam} {course : Course} {hash : Hash}
  {receipt : Receipt} {result : Except BridgeError Transfer.Execution}

/-! ## Announcements -/

theorem announced?_eq_some {log : Log} {guid : Hash} :
    announced? log = some guid ↔ ∃ rest, log.topics = Contract.sentEventTopic :: guid :: rest := by
  unfold announced?
  split
  · next topic id rest ht =>
    rw [ht]
    constructor
    · intro h
      split at h
      · next he =>
        cases h
        exact ⟨rest, by rw [he]⟩
      · cases h
    · rintro ⟨_, ⟨⟩⟩
      rw [if_pos rfl]
  · next ht =>
    constructor
    · nofun
    · rintro ⟨rest, h⟩
      exact absurd h (ht _ _ _)

theorem announced?_eq_none {log : Log} :
    announced? log = none ↔
      ∀ guid rest, log.topics ≠ Contract.sentEventTopic :: guid :: rest := by
  rw [Option.eq_none_iff_forall_ne_some]
  simp only [ne_eq, announced?_eq_some, not_exists]

/-! ## Mined transfers -/

/-- The transfer was submitted, with what is left of the fee going back to the address given for it
or else to that of the client, and the transaction that the submission was answered with was mined
and not reverted. -/
structure Mined (c : Client) (p : SendParams) (param : SendParam) (course : Course) (hash : Hash)
    (receipt : Receipt) : Prop where
  submitted : ∃ w fee, (.submission, w) ∈ course ∧ hash? w = some hash ∧
    w.request = .write c.token (.send param fee (p.refund.getD c.address)) fee.native
  confirmed : ∃ m, (.confirmed, m) ∈ course ∧ m.request = .wait hash ∧ receipt? m = some receipt
  status : receipt.status = true

theorem Step.outcome_confirmed {e : Event Signer.interface} (hr : e.request = .wait hash) :
    confirmed.outcome c e = .ok () ↔
      ∃ receipt, receipt? e = some receipt ∧ receipt.status = true := by
  obtain ⟨r, x, asked, answered⟩ := e
  cases hr
  cases x with
  | error report =>
    constructor
    · nofun
    · rintro ⟨_, h, -⟩
      cases h
  | ok receipt =>
    change (if Receipt.status receipt then _ else _) = _ ↔ _
    constructor
    · intro h
      refine ⟨receipt, rfl, ?_⟩
      split at h
      · assumption
      · cases h
    · rintro ⟨_, ⟨⟩, hstatus⟩
      rw [if_pos hstatus]

theorem Course.Passes.not_fails {e : BridgeError} (h : course.Passes c) : ¬ course.Fails c e := by
  rintro ⟨before, x, rfl, -, hx⟩
  have hpass := h x (List.mem_append_right _ (List.mem_singleton.2 rfl))
  rw [hx] at hpass
  cases hpass

/-- Both orders end with the last wait, which stands nowhere else in them. -/
theorem Sends.eq_concat (h : Sends c p param course result) {m : Event Signer.interface}
    (hm : (.confirmed, m) ∈ course) : ∃ before, course = before ++ [(.confirmed, m)] := by
  have hstep : Step.confirmed ∈ course.map (·.1) := List.mem_map_of_mem hm
  have hwhole : ∃ init, Step.confirmed ∉ init ∧ course.map (·.1) = init ++ [.confirmed] := by
    have hlast : ∀ init : List Step, Step.confirmed ∉ init →
        course.map (·.1) <+: init ++ [.confirmed] → course.map (·.1) = init ++ [.confirmed] :=
      fun init hi ho => (List.prefix_concat_iff.1 ho).resolve_right fun h => hi (h.subset hstep)
    rcases h.order with ho | ho
    · exact ⟨[.quote, .allowance, .submission], by decide, hlast _ (by decide) ho⟩
    · exact ⟨[.quote, .allowance, .approval, .approved, .submission], by decide,
        hlast _ (by decide) ho⟩
  obtain ⟨init, hinit, hsteps⟩ := hwhole
  obtain ⟨before, tail, rfl, hbefore, htail⟩ := List.map_eq_append_iff.1 hsteps
  obtain ⟨x, rfl, -⟩ := List.map_eq_singleton_iff.1 htail
  refine ⟨before, ?_⟩
  rcases List.mem_append.1 hm with hin | hin
  · exact absurd (hbefore ▸ List.mem_map_of_mem hin) hinit
  · rw [List.mem_singleton.1 hin]

/-- A course that has passed ends with the receipt of the submitted transfer. -/
theorem Sends.mined (h : Sends c p param course result) (hp : course.Passes c) :
    ∃ hash receipt, Mined c p param course hash receipt := by
  have hsteps : Step.confirmed ∈ course.map (·.1) := by
    rcases h.told with ⟨e, hf, -⟩ | ⟨-, ho | ho, -⟩
    · exact absurd hf hp.not_fails
    · rw [ho]
      decide
    · rw [ho]
      decide
  obtain ⟨⟨step, m⟩, hm, rfl⟩ := List.mem_map.1 hsteps
  obtain ⟨w, hash, hw, hhash, hwait⟩ := h.asks _ hm
  obtain ⟨fee, hwrite⟩ := h.asks _ hw
  obtain ⟨receipt, hreceipt, hstatus⟩ := (Step.outcome_confirmed hwait).1 (hp _ hm)
  exact ⟨hash, receipt, ⟨w, fee, hw, hhash, hwrite⟩, ⟨m, hm, hwait, hreceipt⟩, hstatus⟩

theorem reports_of_run {σ : Type} (h : Handler Signer.interface σ) (c : Client) (p : SendParams)
    (now : Nat) (s : σ) :
    let run := Program.run h (c.send p).run now s
    (∃ e, (∀ hash, e ≠ .missingSentEvent hash) ∧ run.result = .error e) ∨
      ∃ x receipt, Confirmed run.events x.hash receipt ∧ run.result = reportOf x receipt := by
  have halike : Program.Alike (withLogs (·.logs)) (Reported (·.logs)) (c.send p).run
      (c.send p).run := alike_send p
  cases halike.run h now s with
  | failed hmissing hy => exact .inl ⟨_, hmissing, hy⟩
  | mined hc hy => exact .inr ⟨_, _, hc, hy⟩

namespace Mined

theorem passes (hm : Mined c p param course hash receipt) (h : Sends c p param course result) :
    course.Passes c := by
  obtain ⟨m, hmem, hwait, hreceipt⟩ := hm.confirmed
  obtain ⟨before, rfl⟩ := h.eq_concat hmem
  rcases h.told with ⟨e, ⟨before', x, heq, -, hx⟩, -⟩ | ⟨hpass, -⟩
  · obtain ⟨-, rfl⟩ := List.append_singleton_inj.1 heq
    rw [(Step.outcome_confirmed hwait).2 ⟨receipt, hreceipt, hm.status⟩] at hx
    cases hx
  · exact hpass

theorem eq_of_confirmed (hm : Mined c p param course hash receipt)
    (h : Sends c p param course result) {hash' : Hash} {receipt' : Receipt}
    (hc : Confirmed (course.map (·.2)) hash' receipt') : hash' = hash ∧ receipt' = receipt := by
  obtain ⟨m, hmem, hwait, hreceipt⟩ := hm.confirmed
  obtain ⟨before, rfl⟩ := h.eq_concat hmem
  obtain ⟨e, he, hwait', hreceipt', -⟩ := hc
  obtain rfl : m = e := by simpa using he
  exact ⟨Signer.Request.wait.inj (hwait'.symm.trans hwait),
    Option.some.inj (hreceipt'.symm.trans hreceipt)⟩

section Run

variable {σ : Type} {h : Handler Signer.interface σ} {now : Nat} {s : σ}

theorem result_eq (hm : Mined c p param course hash receipt)
    (hevents : course.map (·.2) = (Program.run h (c.send p).run now s).events)
    (hs : Sends c p param course (Program.run h (c.send p).run now s).result) :
    ∃ x, x.hash = hash ∧ (Program.run h (c.send p).run now s).result = reportOf x receipt := by
  rcases reports_of_run h c p now s with ⟨e, hmissing, hy⟩ | ⟨x, receipt', hc, hy⟩
  · rcases hs.told with ⟨_, hf, -⟩ | ⟨-, -, ⟨x, hx⟩ | ⟨sent, hx⟩⟩
    · exact absurd hf (hm.passes hs).not_fails
    · cases hy.symm.trans hx
    · exact absurd (Except.error.inj (hy.symm.trans hx)) (hmissing sent)
  · obtain ⟨rfl, rfl⟩ := hm.eq_of_confirmed hs (hevents ▸ hc)
    exact ⟨x, rfl, hy⟩

theorem result_of_announces {guid : Hash} (hm : Mined c p param course hash receipt)
    (hevents : course.map (·.2) = (Program.run h (c.send p).run now s).events)
    (hs : Sends c p param course (Program.run h (c.send p).run now s).result)
    (hguid : Announces receipt.logs guid) :
    ∃ x, (Program.run h (c.send p).run now s).result = .ok x ∧ x.hash = hash ∧
      x.guid = guid.text := by
  obtain ⟨x, rfl, hx⟩ := hm.result_eq hevents hs
  rw [reportOf_of_some (messageGuid?_eq_some.2 hguid)] at hx
  exact ⟨_, hx, rfl, rfl⟩

theorem result_of_silent (hm : Mined c p param course hash receipt)
    (hevents : course.map (·.2) = (Program.run h (c.send p).run now s).events)
    (hs : Sends c p param course (Program.run h (c.send p).run now s).result)
    (hnone : ∀ log ∈ receipt.logs, announced? log = none) :
    (Program.run h (c.send p).run now s).result = .error (.missingSentEvent receipt.hash) := by
  obtain ⟨x, -, hx⟩ := hm.result_eq hevents hs
  exact hx.trans (reportOf_of_none (messageGuid?_eq_none.2 hnone))

end Run

end Mined

/-! ## The result -/

/-- A transfer succeeds if it was mined with an announcement, and not otherwise. -/
theorem Sends.succeeds_iff {σ : Type} {h : Handler Signer.interface σ} {now : Nat} {s : σ}
    (hs : Sends c p param course (Program.run h (c.send p).run now s).result)
    (hevents : course.map (·.2) = (Program.run h (c.send p).run now s).events) :
    (∃ x, (Program.run h (c.send p).run now s).result = .ok x) ↔
      course.Passes c ∧ ∃ hash receipt guid, Mined c p param course hash receipt ∧
        Announces receipt.logs guid := by
  constructor
  · rintro ⟨x, hx⟩
    have hpass : course.Passes c := by
      rcases hs.told with ⟨e, -, he⟩ | ⟨hpass, -⟩
      · cases he.symm.trans hx
      · exact hpass
    obtain ⟨hash, receipt, hm⟩ := hs.mined hpass
    refine ⟨hpass, hash, receipt, ?_⟩
    cases hg : messageGuid? receipt.logs with
    | some guid => exact ⟨guid, hm, messageGuid?_eq_some.1 hg⟩
    | none =>
      have hmissing := hm.result_of_silent hevents hs (messageGuid?_eq_none.1 hg)
      cases hmissing.symm.trans hx
  · rintro ⟨-, hash, receipt, guid, hm, hguid⟩
    obtain ⟨x, hx, -⟩ := hm.result_of_announces hevents hs hguid
    exact ⟨x, hx⟩

/-- Whoever answers, a transfer that the client can make succeeds exactly if every step has passed
and the receipt at the end announces a message. Then the hash is that of the submission, the message
id the one that is announced first, and the names are those of the registry. A transfer that was
mined without an announcement is told as that. -/
theorem Client.send_succeeds {σ : Type} (h : Handler Signer.interface σ) (c : Client)
    (p : SendParams) (now : Nat) (s : σ) :
    let run := Program.run h (c.send p).run now s
    (∀ e, c.plan p.quote p.slippage p.gasLimit = .error e → run.result = .error e) ∧
    ∀ destination param, c.plan p.quote p.slippage p.gasLimit = .ok (destination, param) →
      c.chain.name = Text.lowerCase p.quote.source ∧
      destination.name = Text.lowerCase p.quote.destination ∧
      ∃ course, course.map (·.2) = run.events ∧ Sends c p param course run.result ∧
        ((∃ x, run.result = .ok x) ↔ course.Passes c ∧ ∃ hash receipt guid,
          Mined c p param course hash receipt ∧ Announces receipt.logs guid) ∧
        (course.Passes c → ∃ hash receipt, Mined c p param course hash receipt) ∧
        ∀ hash receipt, Mined c p param course hash receipt →
          (∀ guid, Announces receipt.logs guid → run.result = .ok {
            hash
            guid := guid.text
            sent := p.quote.amount
            received := param.minAmount
            source := c.chain.name
            destination := destination.name
            seconds := Chain.deliveryTime c.chain destination }) ∧
          ((∀ log ∈ receipt.logs, ∀ guid rest,
            log.topics ≠ Contract.sentEventTopic :: guid :: rest) →
              run.result = .error (.missingSentEvent receipt.hash)) := by
  intro run
  have hrun : Ends (c.send p).run run.events run.result := Program.ends_run h _ now s
  refine ⟨fun e he => (ends_send_of_plan_eq_error he hrun).2, fun destination param hp => ?_⟩
  obtain ⟨hsource, hdestination⟩ := Prod.mk.inj (Client.registered_of_plan hp).eq_lowerCase
  obtain ⟨course, hevents, hs⟩ := sends_of_ends hp hrun
  refine ⟨hsource, hdestination, course, hevents, hs, hs.succeeds_iff hevents, hs.mined,
    fun hash receipt hm => ⟨fun guid hguid => ?_, fun hnone => ?_⟩⟩
  · obtain ⟨⟨_, _, _, _, _, _, _⟩, hx, rfl, rfl⟩ := hm.result_of_announces hevents hs hguid
    obtain ⟨rfl, rfl, rfl, rfl, rfl⟩ := execution_of_ends hp (hx ▸ hrun)
    exact hx
  · exact hm.result_of_silent hevents hs fun log hlog => announced?_eq_none.2 (hnone log hlog)

/-- The hash is that of the second transaction, after an approval, and a log with the topic of the
event alone hides no announcement behind it. -/
theorem Client.send_succeeds_after_approval :
    let c : Client := ⟨.arbitrum, .zero⟩
    let p : SendParams :=
      { quote := ⟨"arbitrum", "ink", 1000, "0x1234567890123456789012345678901234567890"⟩ }
    let logs : List Log :=
      [⟨c.token, [Contract.sentEventTopic], []⟩, ⟨c.token, [Contract.sentEventTopic, ⟨0x22⟩], []⟩]
    let signer : Scripted.Signer := { receipts := [none, some ⟨true, ⟨2⟩, logs⟩] }
    let run := Program.run Scripted.Signer.handler (c.send p).run 0 signer
    ∃ destination param course receipt guid,
      c.plan p.quote p.slippage p.gasLimit = .ok (destination, param) ∧
      course.map (·.2) = run.events ∧ course.Passes c ∧ Mined c p param course ⟨2⟩ receipt ∧
      Announces receipt.logs guid ∧ guid.text = Hash.text ⟨0x22⟩ ∧
      run.result = .ok {
        hash := ⟨2⟩
        guid := guid.text
        sent := 1000
        received := param.minAmount
        source := "arbitrum"
        destination := "ink"
        seconds := Chain.deliveryTime .arbitrum destination } := by
  intro c p logs signer run
  obtain ⟨-, hsucceeds⟩ := Client.send_succeeds Scripted.Signer.handler c p 0 signer
  have hplan : (c.plan p.quote p.slippage p.gasLimit).toBool = true := by decide +kernel
  obtain ⟨⟨destination, param⟩, hp⟩ := exists_ok_of_toBool hplan
  obtain ⟨-, hdestination, course, hevents, -, hok, -, hmined⟩ := hsucceeds destination param hp
  have hresult : run.result.map (fun x => (x.hash, x.guid)) = .ok (⟨2⟩, Hash.text ⟨0x22⟩) := by
    decide +kernel
  obtain ⟨x, hx, -⟩ := eq_ok_of_map hresult
  obtain ⟨hpass, hash, receipt, guid, hm, hguid⟩ := hok.1 ⟨x, hx⟩
  have hreported := (hmined hash receipt hm).1 guid hguid
  rw [hreported] at hresult
  obtain ⟨rfl, htext⟩ := Prod.mk.inj (Except.ok.inj hresult)
  have hink : destination.name = "ink" := hdestination.trans (by decide +kernel)
  rw [hink] at hreported
  exact ⟨destination, param, course, receipt, guid, hp, hevents, hpass, hm, hguid, htext, hreported⟩

end Bridge

end TokenBridge
