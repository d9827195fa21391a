import TokenBridge.Proofs.Router.AutoBridge

/-!
# Transfers that are refused

A failure that is told as one of validation comes, from a survey and from a
transfer whose source is named, before anything has reached a chain. An
automatic transfer reads its recipient only after the survey. So one that is no
address is told of after balances and quotes were read (`autoBridge_refused_late`),
and this is the only such failure (`refusals`).
-/

namespace TokenBridge.Router

open Bridge (Cache IsRefusal Kept)
open Bridge.Cache (Reached)
open Transfer (SendParams)
open Wallet (signed)

variable {r : Router} {p : AutoParams} {before after cache : Cache} {destination : Chain}
  {wanted : Option Amount} {found : List Route} {route : Route}
  {l log past : List (Event Wallet.interface)}

/-- The request reads a balance or is put to a signer. Signers are the wallet's own to hand
out. -/
def reachesChain : Wallet.Request → Bool
  | .openSigner _ => false
  | .tokenBalance _ | .nativeBalance _ | .onSigner .. => true

/-- How the recipient that is given for an automatic transfer is refused, if it is no address. -/
def recipientError? (p : AutoParams) : Option BridgeError :=
  (p.recipient.filter (!·.isEmpty)).bind fun text =>
    match Address.read text with
    | .ok _ => none
    | .error e => some (.invalidAddress "recipient" text e.message)

theorem isValidation_of_recipientError? {e : BridgeError} (h : recipientError? p = some e) :
    e.isValidation = true := by
  obtain ⟨text, -, h⟩ := Option.bind_eq_some_iff.1 h
  split at h
  · cases h
  · cases h
    rfl

theorem recipientHash_sendOn {e : BridgeError} :
    Transfer.recipientHash (r.sendOn p route).quote.recipient = .error e ↔
      recipientError? p = some e := by
  unfold sendOn recipientError?
  cases p.recipient.filter (!·.isEmpty) with
  | none => simp [Transfer.recipientHash_checksummed]
  | some text =>
    rw [Option.getD_some, Option.bind_some, Transfer.recipientHash]
    cases Address.read text <;> simp

/-! ## Transfers -/

/-- A transfer whose source is named is refused before anything has reached a chain. -/
theorem Work.bridge_refused {t : SendParams} {e : BridgeError}
    (h : Work.Ends (r.bridge t) before log (.error e) after) (he : e.isValidation = true) :
    ∀ ev ∈ log, reachesChain ev.request = false := by
  intro ev hev
  rcases Work.bridge_cases h with ⟨_, hgot, -⟩ | ⟨kept, l, l', rfl, hgot, hsend⟩
  · rw [hgot.asks hev]
    rfl
  cases hp : kept.client.plan t.quote t.slippage t.gasLimit with
  | ok planned =>
    obtain ⟨course, rfl, hcourse⟩ := Bridge.sends_of_ends hp hsend
    exact absurd (.inl he) hcourse.not_isRefusal
  | error e' =>
    obtain ⟨rfl, -⟩ := Bridge.ends_send_of_plan_eq_error hp hsend
    rw [List.map_nil, List.append_nil] at hev
    rw [hgot.asks hev]
    rfl

theorem Surveyed.sendOn_cases {z : Except BridgeError Transfer.Execution}
    (hs : Surveyed r destination wanted before l found cache)
    (hr : Reached r.wallet past before) (hroute : route ∈ found) (ha : route.available = true)
    (hamount : p.amount ≠ 0) (h : Work.Ends (r.bridge (r.sendOn p route)) cache log z after) :
    (∃ e, recipientError? p = some e ∧ z = .error e ∧ log = []) ∨
      recipientError? p = none ∧ ∀ e, z = .error e → ¬ IsRefusal e := by
  obtain ⟨kept, events, -, -, -, -, hplan, rfl, hsend⟩ := hs.ends_bridge hr hroute ha hamount h
  cases hparam : Transfer.sendParam destination p.amount (r.sendOn p route).quote.recipient
      (r.sendOn p route).slippage none with
  | error e =>
    obtain ⟨rfl, rfl⟩ := Bridge.ends_send_of_plan_eq_error
      (hplan.trans (congrArg (Except.map _) hparam)) hsend
    exact .inl ⟨e, recipientHash_sendOn.1 (Transfer.sendParam_eq_error.1 hparam), rfl, rfl⟩
  | ok param =>
    obtain ⟨course, rfl, hcourse⟩ :=
      Bridge.sends_of_ends (hplan.trans (congrArg (Except.map _) hparam)) hsend
    refine .inr ⟨?_, ?_⟩
    · cases hbad : recipientError? p with
      | none => rfl
      | some e =>
        cases (Transfer.sendParam_eq_error.2 (recipientHash_sendOn.2 hbad)).symm.trans hparam
    · rintro e rfl
      exact hcourse.not_isRefusal

theorem Surveyed.execute_refused {e : BridgeError}
    (hs : Surveyed r destination wanted before l found cache)
    (hr : Reached r.wallet past before) (hamount : p.amount ≠ 0)
    (h : Work.Ends (r.execute p found) cache log (.error e) after) (he : e.isValidation = true) :
    recipientError? p = some e ∧ log = [] := by
  cases hsel : Route.select found (p.strategy.getD r.settings.strategy) p.preferred with
  | none =>
    rw [execute_of_select_eq_none hsel] at h
    obtain ⟨-, heq, -⟩ := Work.ends_ofExcept h
    cases heq
    cases he
  | some route =>
    obtain ⟨hmem, havail⟩ := Route.mem_of_select hsel
    obtain ⟨z, mid, hz, hy⟩ := ends_execute hsel h
    obtain rfl := Bridge.eq_error_of_map hy.symm
    rcases hs.sendOn_cases hr hmem havail hamount hz with ⟨e', hbad, heq, hnil⟩ | ⟨-, hbegun⟩
    · cases heq
      exact ⟨hbad, hnil⟩
    · exact absurd (.inl he) (hbegun e rfl)

theorem Surveyed.execute_of_recipientError? {e : BridgeError} {y : Except BridgeError AutoResult}
    (hs : Surveyed r destination wanted before l found cache)
    (hr : Reached r.wallet past before) (hamount : p.amount ≠ 0)
    (hsel : Route.select found (p.strategy.getD r.settings.strategy) p.preferred = some route)
    (hbad : recipientError? p = some e) (h : Work.Ends (r.execute p found) cache log y after) :
    y = .error e ∧ log = [] := by
  obtain ⟨hmem, havail⟩ := Route.mem_of_select hsel
  obtain ⟨z, mid, hz, rfl⟩ := ends_execute hsel h
  rcases hs.sendOn_cases hr hmem havail hamount hz with ⟨e', hbad', rfl, hnil⟩ | ⟨hgood, -⟩
  · cases hbad.symm.trans hbad'
    exact ⟨rfl, hnil⟩
  · cases hbad.symm.trans hgood

/-! ## The whole -/

/-- Whoever answers, a survey that fails and a transfer from a named source that is refused reach
no chain. An automatic transfer that is refused asks nothing, but where its recipient is no
address: then it asks what the survey asks, whenever that lists a route to select. -/
theorem refusals {σ : Type} (h : Handler Wallet.interface σ) (order : Arrangement)
    (hc : Reached r.wallet past cache) (name : String) (amount : Option Amount) (t : SendParams)
    (p : AutoParams) (now : Nat) (s : σ) :
    let listed := Flow.run h order ((ExceptT.run (r.routes name amount)).run cache) now s
    let sent := Flow.run h order ((ExceptT.run (r.bridge t)).run cache) now s
    let survey :=
      Flow.run h order ((ExceptT.run (r.routes p.destination (some p.amount))).run cache) now s
    let run := Flow.run h order ((ExceptT.run (r.autoBridge p)).run cache) now s
    (∀ e, listed.result.1 = .error e → listed.events = []) ∧
    (∀ e, sent.result.1 = .error e → e.isValidation = true →
      ∀ ev ∈ sent.events, reachesChain ev.request = false) ∧
    (∀ e, run.result.1 = .error e → e.isValidation = true →
      run.events = [] ∨ recipientError? p = some e ∧ run.events = survey.events) ∧
    (∀ e found route, recipientError? p = some e → p.amount ≠ 0 →
      survey.result.1 = .ok found →
      Route.select found (p.strategy.getD r.settings.strategy) p.preferred = some route →
      run.result.1 = .error e ∧ e.isValidation = true ∧ run.events = survey.events) := by
  intro listed sent survey run
  have hsurvey : Work.Ends (r.routes p.destination (some p.amount)) cache survey.events
      survey.result.1 survey.result.2 := Flow.ends_run h order _ now s
  have hparts : p.amount ≠ 0 →
      (∃ e, survey.result.1 = .error e ∧ run.result.1 = .error e ∧ run.events = survey.events) ∨
      ∃ found log, survey.result.1 = .ok found ∧ run.events = survey.events ++ log ∧
        Work.Ends (r.execute p found) survey.result.2 log run.result.1 run.result.2 := by
    intro hamount
    have hparts := Work.run_bind h order (r.routes p.destination (some p.amount)) (r.execute p)
      cache now s
    rwa [← autoBridge_eq hamount] at hparts
  refine ⟨?_, ?_, ?_, ?_⟩
  · intro e he
    have hlisted : Work.Ends (r.routes name amount) cache listed.events listed.result.1
        listed.result.2 := Flow.ends_run h order _ now s
    exact (refused_of_ends_error (he ▸ hlisted)).2
  · intro e he hvalid
    have hsent : Work.Ends (r.bridge t) cache sent.events sent.result.1 sent.result.2 :=
      Flow.ends_run h order _ now s
    exact Work.bridge_refused (he ▸ hsent) hvalid
  · intro e he hvalid
    by_cases hamount : p.amount = 0
    · have hrun : Work.Ends (r.autoBridge p) cache run.events run.result.1 run.result.2 :=
        Flow.ends_run h order _ now s
      rw [autoBridge_of_amount_eq_zero hamount] at hrun
      exact .inl (Work.ends_ofExcept hrun).1
    rcases hparts hamount with ⟨_, hlisted, -, hevents⟩ | ⟨found, log, hlisted, hevents, hends⟩
    · exact .inl (hevents.trans (refused_of_ends_error (hlisted ▸ hsurvey)).2)
    · obtain ⟨_, -, hs⟩ := surveyed_of_ends_ok (hlisted ▸ hsurvey)
      obtain ⟨hbad, rfl⟩ := hs.execute_refused hc hamount (he ▸ hends) hvalid
      exact .inr ⟨hbad, hevents.trans (List.append_nil _)⟩
  · intro e found route hbad hamount hfound hsel
    obtain ⟨_, -, hs⟩ := surveyed_of_ends_ok (hfound ▸ hsurvey)
    rcases hparts hamount with ⟨_, hlisted, -⟩ | ⟨found', log, hlisted, hevents, hends⟩
    · cases hlisted.symm.trans hfound
    · cases hlisted.symm.trans hfound
      obtain ⟨hy, rfl⟩ := hs.execute_of_recipientError? hc hamount hsel hbad hends
      exact ⟨hy, isValidation_of_recipientError? hbad, hevents.trans (List.append_nil _)⟩

/-- A transfer from a chain that the wallet is not configured for is refused, and reaches no
chain. -/
theorem refusal_of_unconfigured_source :
    let w : Scripted.Wallet :=
      { address := .zero
        chains := [("arbitrum", ⟨5, 2000000000000000, false, { fee := 7 }⟩)] }
    let r : Router := ⟨w.toWallet, .default⟩
    let t : SendParams := { quote := ⟨"Ink", "unichain", 3, "0x12"⟩ }
    let run := Flow.run Scripted.Wallet.handler .asSpawned
      ((ExceptT.run (r.bridge t)).run .empty) 0 w
    Reached r.wallet [] .empty ∧ run.result.1 = .error (.chainNotConfigured "ink") ∧
      ∀ ev ∈ run.events, reachesChain ev.request = false := by
  intro w r t
  have hresult : (Flow.run Scripted.Wallet.handler .asSpawned
      ((ExceptT.run (r.bridge t)).run .empty) 0 w).result.1 =
        .error (.chainNotConfigured "ink") := by decide +kernel
  obtain ⟨-, hsent, -⟩ := refusals (r := r) Scripted.Wallet.handler .asSpawned .empty "" none t
    { destination := "unichain", amount := 3 } 0 w
  exact ⟨.empty, hresult, hsent _ hresult rfl⟩

/-- An automatic transfer to a recipient that is no address is refused as one that fails validation,
after the balances were read. -/
theorem autoBridge_refused_late :
    let w : Scripted.Wallet :=
      { address := .zero
        chains := [("arbitrum", ⟨5, 2000000000000000, false, { fee := 7 }⟩)] }
    let r : Router := ⟨w.toWallet, .default⟩
    let p : AutoParams := { destination := "unichain", amount := 3, recipient := some "0x12" }
    let run := Flow.run Scripted.Wallet.handler .asSpawned
      ((ExceptT.run (r.autoBridge p)).run .empty) 0 w
    ∃ e, (run.result.1 = .error e ∧ e.isValidation = true) ∧
      ∃ ev ∈ run.events, reachesChain ev.request = true := by
  refine ⟨.invalidAddress "recipient" "0x12" "invalid address length: expected 20 bytes, got 1",
    ⟨?_, rfl⟩, List.any_eq_true.1 ?_⟩
  · decide +kernel
  · decide +kernel

end TokenBridge.Router
