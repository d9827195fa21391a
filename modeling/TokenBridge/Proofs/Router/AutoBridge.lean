import TokenBridge.Proofs.Bridge.Course
import TokenBridge.Proofs.Route
import TokenBridge.Proofs.Router.Origin
import TokenBridge.Scripted.Wallet

/-!
# Automatic transfers

An automatic transfer is a survey, a selection, and a transfer on the client of
the selected source, which the survey left in the cache. So calls are submitted
on the signer of that source alone, and none if the transfer is refused.
`AutoBridged` says so of a log, and what the calls carry and the result reports;
it holds of every run (`autoBridge_bridged`).
-/

namespace TokenBridge.Router

open Bridge (Cache IsRefusal Kept opened?)
open Bridge.Cache (Got Reached)
open Transfer (SendParams)
open Wallet (signed)

variable {α β : Type} {r : Router} {before after cache : Cache}
  {log past : List (Event Wallet.interface)} {kept : Kept}

/-! ## Work on the cache -/

theorem Work.run_bind {σ : Type} (h : Handler Wallet.interface σ) (order : Arrangement)
    (x : Work α) (f : α → Work β) (cache : Cache) (now : Nat) (s : σ) :
    let first := Flow.run h order ((ExceptT.run x).run cache) now s
    let run := Flow.run h order ((ExceptT.run (x >>= f)).run cache) now s
    (∃ e, first.result.1 = .error e ∧ run.result.1 = .error e ∧ run.events = first.events) ∨
    ∃ a l, first.result.1 = .ok a ∧ run.events = first.events ++ l ∧
      Work.Ends (f a) first.result.2 l run.result.1 run.result.2 := by
  intro first run
  have hrun : run = (Flow.run h order (((fun y : Except BridgeError α × Cache =>
      ((ExceptT.bindCont f y.1 : StateT Cache (Flow Wallet.interface) (Except BridgeError β)).run
        y.2)) first.result)) first.finished first.state).after first.events :=
    Flow.run_bind h order _ _ now s
  generalize first.result = result at hrun ⊢
  obtain ⟨e | a, mid⟩ := result
  · refine .inl ⟨e, rfl, ?_, ?_⟩
    · rw [hrun]
      rfl
    · rw [hrun]
      exact List.append_nil _
  · refine .inr ⟨a, (Flow.run h order ((ExceptT.run (f a)).run mid) first.finished
      first.state).events, rfl, ?_, ?_⟩
    · rw [hrun]
      rfl
    · rw [hrun]
      exact Flow.ends_run h order _ _ _

theorem Work.ends_client {name : String} {y : Except BridgeError Kept}
    (h : Work.Ends (r.client name) before log y after) :
    Got r.wallet before (Text.lowerCase name) log y after :=
  Cache.got_of_ends (Flow.ends_ofProgram h)

theorem Work.ends_through {p : Bridge.Client.Work α} {y : Except BridgeError α}
    (h : Work.Ends (through kept p) before log y after) :
    after = before ∧ ∃ l, log = l.map (signed kept.signer) ∧ Program.Ends p.run l y := by
  rcases Work.ends_bind h with ⟨e, h₁, -⟩ | ⟨x, mid, l, l', rfl, h₁, h₂⟩
  · obtain ⟨_, hy, -⟩ := Work.ends_ofFlow h₁
    cases hy
  obtain ⟨_, hy, rfl, hp⟩ := Work.ends_ofFlow h₁
  cases hy
  obtain ⟨rfl, rfl, rfl⟩ := Work.ends_ofExcept h₂
  obtain ⟨l, rfl, hl⟩ := Wallet.ends_through.1 (Flow.ends_ofProgram hp)
  exact ⟨rfl, l, List.append_nil _, hl⟩

/-- A transfer from a source fails for want of a client, or it is that of the client that was
had. -/
theorem Work.bridge_cases {p : SendParams} {y : Except BridgeError Transfer.Execution}
    (h : Work.Ends (r.bridge p) before log y after) :
    (∃ e, Got r.wallet before (Text.lowerCase p.quote.source) log (.error e) after ∧ y = .error e) ∨
    ∃ (kept : Kept) (l l' : List _), log = l ++ l'.map (signed kept.signer) ∧
      Got r.wallet before (Text.lowerCase p.quote.source) l (.ok kept) after ∧
      Program.Ends (kept.client.send p).run l' y := by
  rcases Work.ends_bind h with ⟨e, h₁, rfl⟩ | ⟨kept, mid, l, l', rfl, h₁, h₂⟩
  · exact .inl ⟨e, Work.ends_client h₁, rfl⟩
  · obtain ⟨rfl, l', rfl, hsend⟩ := Work.ends_through h₂
    exact .inr ⟨kept, l, l', rfl, Work.ends_client h₁, hsend⟩

/-- What every client's transfer asks of its signer, a transfer from a source asks of a signer. -/
theorem Work.forall_of_ends_bridge {p : SendParams} {Q : Signer.Request → Prop}
    {y : Except BridgeError Transfer.Execution}
    (hQ : ∀ (c : Bridge.Client) l y, Program.Ends (c.send p).run l y → ∀ e ∈ l, Q e.request)
    (h : Work.Ends (r.bridge p) before log y after) :
    ∀ e ∈ log, ∀ signer q, e.request = .onSigner signer q → Q q := by
  intro e he signer q hreq
  rcases Work.bridge_cases h with ⟨_, hgot, -⟩ | ⟨kept, l, l', rfl, hgot, hsend⟩
  · cases (hgot.asks he).symm.trans hreq
  rcases List.mem_append.1 he with he | he
  · cases (hgot.asks he).symm.trans hreq
  · obtain ⟨e', he', rfl⟩ := List.mem_map.1 he
    cases hreq
    exact hQ _ _ _ hsend e' he'

theorem Work.ends_bridge {p : SendParams} {y : Except BridgeError Transfer.Execution}
    (hk : before.find? (Text.lowerCase p.quote.source) = some kept)
    (h : Work.Ends (r.bridge p) before log y after) :
    ∃ l, log = l.map (signed kept.signer) ∧ Program.Ends (kept.client.send p).run l y := by
  rcases Work.bridge_cases h with ⟨e, hgot, -⟩ | ⟨kept', l, l', rfl, hgot, hsend⟩
  · cases (hgot.of_find? hk).2.1
  · obtain ⟨rfl, heq, -⟩ := hgot.of_find? hk
    cases heq
    exact ⟨l', rfl, hsend⟩

/-! ## The selected transfer -/

def submits : Wallet.Request → Bool
  | .onSigner _ q => Bridge.submits q
  | _ => false

/-- The recipient of an automatic transfer is the one given, else the wallet itself. -/
def Receives (r : Router) (p : AutoParams) (recipient : Hash) : Prop :=
  match p.recipient.filter (!·.isEmpty) with
  | some text => Transfer.recipientHash text = .ok recipient
  | none => recipient = r.wallet.address.toHash

/-- The transfer on a route that was selected. -/
def sendOn (r : Router) (p : AutoParams) (route : Route) : SendParams :=
  { quote :=
      { source := route.source
        destination := route.destination
        amount := p.amount
        recipient := (p.recipient.filter (!·.isEmpty)).getD r.wallet.address.checksummed }
    slippage := r.slippage p.slippage }

variable {p : AutoParams} {destination : Chain} {wanted : Option Amount} {found : List Route}
  {route : Route} {l : List (Event Wallet.interface)}

theorem Surveyed.submits_eq_false {e : Event Wallet.interface}
    (h : Surveyed r destination wanted before log found after) (he : e ∈ log) :
    submits e.request = false := by
  rcases h.event_cases he with ⟨name, hreq | hreq | hreq⟩ | ⟨_, _, _, _, _, _, _, htest, hx, he⟩
  · rw [hreq]
    rfl
  · rw [hreq]
    rfl
  · rw [hreq]
    rfl
  · obtain ⟨_, _, _, -, -, hreq⟩ := htest.rest_asks hx he
    rw [hreq]
    rfl

theorem submits_eq_false_of_ends_routes {name : String} {y : Except BridgeError (List Route)}
    (h : Work.Ends (r.routes name wanted) before log y after) :
    ∀ e ∈ log, submits e.request = false := by
  cases y with
  | error e =>
    rw [(refused_of_ends_error h).2]
    exact fun _ he => absurd he List.not_mem_nil
  | ok found =>
    obtain ⟨_, -, hs⟩ := surveyed_of_ends_ok h
    exact fun _ he => hs.submits_eq_false he

theorem exists_of_submits {q : Wallet.Request} (h : submits q = true) :
    ∃ signer contract call value, q = .onSigner signer (.write contract call value) := by
  cases q with
  | tokenBalance | nativeBalance | openSigner => cases h
  | onSigner signer q =>
    cases q with
    | read | wait => cases h
    | write contract call value => exact ⟨signer, contract, call, value, rfl⟩

theorem receives_of_recipientHash {hash : Hash}
    (h : Transfer.recipientHash
      ((p.recipient.filter (!·.isEmpty)).getD r.wallet.address.checksummed) = .ok hash) :
    Receives r p hash := by
  unfold Receives
  cases hr : p.recipient.filter (!·.isEmpty) with
  | some text => rwa [hr, Option.getD_some] at h
  | none =>
    rw [hr, Option.getD_none, Transfer.recipientHash_checksummed] at h
    exact (Except.ok.inj h).symm

/-- What the transfer on a selected route asks and comes to. -/
structure Transferred (r : Router) (p : AutoParams) (route : Route) (source destination : Chain)
    (signer : Wallet.ChainSigner) (log : List (Event Wallet.interface))
    (y : Except BridgeError Transfer.Execution) : Prop where
  writes : ∀ e ∈ log, submits e.request = true →
    ∃ call value, e.request = .onSigner signer (.write source.token call value)
  sends : ∀ e ∈ log, ∀ signer contract param fee refund value,
    e.request = .onSigner signer (.write contract (.send param fee refund) value) →
    param.amount = p.amount ∧ Receives r p param.recipient ∧
      param.endpoint = destination.endpoint
  refused : ∀ e, y = .error e → IsRefusal e → log = []
  done : ∀ x, y = .ok x → x.sent = p.amount ∧ x.source = route.source ∧
    x.destination = route.destination ∧ x.seconds = route.seconds

theorem Surveyed.ends_bridge {y : Except BridgeError Transfer.Execution}
    (hs : Surveyed r destination wanted before l found cache)
    (hr : Reached r.wallet past before) (hroute : route ∈ found) (ha : route.available = true)
    (hamount : p.amount ≠ 0) (h : Work.Ends (r.bridge (r.sendOn p route)) cache log y after) :
    ∃ (kept : Kept) (events : List _), kept.client.chain.name = route.source ∧
      (∃ e ∈ past ++ l, opened? e = some (route.source, kept.signer)) ∧
      route.destination = destination.name ∧
      route.seconds = Chain.deliveryTime kept.client.chain destination ∧
      kept.client.plan (r.sendOn p route).quote (r.sendOn p route).slippage none =
        (Transfer.sendParam destination p.amount (r.sendOn p route).quote.recipient
          (r.sendOn p route).slippage none).map (destination, ·) ∧
      log = events.map (signed kept.signer) ∧
      Program.Ends (kept.client.send (r.sendOn p route)).run events y := by
  obtain ⟨source, hname, hne, hdest, hseconds, havail⟩ := hs.route hr hroute
  obtain ⟨-, kept, hk⟩ := havail ha
  have hfiled := (hs.reached hr).filed hk
  have hclient : kept.client.chain = source :=
    Chain.name_injective (hfiled.chain.symm.trans hname.symm)
  have hkey : Text.lowerCase route.source = route.source := by rw [← hname, Chain.lowerCase_name]
  obtain ⟨events, hlog, hsend⟩ := Work.ends_bridge (p := r.sendOn p route) (hkey.symm ▸ hk) h
  have hplan := Bridge.Client.plan_eq (c := kept.client) (p := (r.sendOn p route).quote)
    (hclient ▸ hname.symm) hdest (hclient ▸ hne) hamount (r.sendOn p route).slippage none
  exact ⟨kept, events, hfiled.chain.symm, hfiled.opened, hdest, hclient ▸ hseconds, hplan, hlog,
    hsend⟩

theorem Surveyed.transferred {y : Except BridgeError Transfer.Execution}
    (hs : Surveyed r destination wanted before l found cache)
    (hr : Reached r.wallet past before) (hroute : route ∈ found) (ha : route.available = true)
    (hamount : p.amount ≠ 0) (h : Work.Ends (r.bridge (r.sendOn p route)) cache log y after) :
    ∃ source signer, Chain.name source = route.source ∧
      (∃ e ∈ past ++ l, opened? e = some (route.source, signer)) ∧
      Transferred r p route source destination signer log y := by
  obtain ⟨kept, events, hname, hopened, hdest, hseconds, hplan, rfl, hsend⟩ :=
    hs.ends_bridge hr hroute ha hamount h
  refine ⟨kept.client.chain, kept.signer, hname, hopened, ?_⟩
  cases hparam : Transfer.sendParam destination p.amount (r.sendOn p route).quote.recipient
      (r.sendOn p route).slippage none with
  | error e =>
    -- The recipient is no address: nothing is asked.
    obtain ⟨rfl, rfl⟩ := Bridge.ends_send_of_plan_eq_error
      (hplan.trans (congrArg (Except.map _) hparam)) hsend
    exact ⟨fun _ he => absurd he List.not_mem_nil, fun _ he => absurd he List.not_mem_nil,
      fun _ _ _ => rfl, nofun⟩
  | ok param =>
    obtain ⟨hpamount, -, hendpoint, hrecipient⟩ := Transfer.sendParam_eq_ok hparam
    have hplan := hplan.trans (congrArg (Except.map _) hparam)
    obtain ⟨course, rfl, hcourse⟩ := Bridge.sends_of_ends hplan hsend
    have hwrite : ∀ e ∈ (course.map (·.2)).map (signed kept.signer), ∀ signer contract call value,
        e.request = .onSigner signer (.write contract call value) → signer = kept.signer ∧
          contract = kept.client.chain.token ∧
          ∀ param' fee refund, call = .send param' fee refund → param' = param := by
      intro e he signer contract call value hreq
      obtain ⟨e₁, he₁, rfl⟩ := List.mem_map.1 he
      injection hreq with hsigner hq
      obtain ⟨htoken, hsend⟩ := hcourse.write he₁ hq
      exact ⟨hsigner.symm, htoken, hsend⟩
    refine ⟨?_, ?_, ?_, ?_⟩
    · intro e he hsub
      obtain ⟨signer, contract, call, value, hreq⟩ := exists_of_submits hsub
      obtain ⟨rfl, rfl, -⟩ := hwrite e he _ _ _ _ hreq
      exact ⟨call, value, hreq⟩
    · intro e he signer contract param' fee refund value hreq
      obtain rfl := (hwrite e he _ _ _ _ hreq).2.2 _ _ _ rfl
      exact ⟨hpamount, receives_of_recipientHash hrecipient, hendpoint⟩
    · rintro e rfl href
      exact absurd href hcourse.not_isRefusal
    · rintro x rfl
      obtain ⟨hsent, -, hxs, hxd, hxt⟩ := Bridge.execution_of_ends hplan hsend
      exact ⟨hsent, hxs.trans hname, hxd.trans hdest.symm, hxt.trans hseconds.symm⟩

/-! ## The whole -/

/-- What an automatic transfer does with a list of routes. -/
def execute (r : Router) (p : AutoParams) (found : List Route) : Work AutoResult :=
  let strategy := p.strategy.getD r.settings.strategy
  match Route.select found strategy p.preferred with
  | none => ofExcept (.error (.noRoute p.amount p.destination))
  | some route => do
    let execution ← r.bridge (r.sendOn p route)
    return ⟨execution, route, strategy⟩

theorem execute_of_select_eq_none
    (h : Route.select found (p.strategy.getD r.settings.strategy) p.preferred = none) :
    r.execute p found = ofExcept (.error (.noRoute p.amount p.destination)) := by
  unfold execute
  simp only [h]

theorem execute_of_select_eq_some
    (h : Route.select found (p.strategy.getD r.settings.strategy) p.preferred = some route) :
    r.execute p found = r.bridge (r.sendOn p route) >>= fun execution =>
      pure ⟨execution, route, p.strategy.getD r.settings.strategy⟩ := by
  unfold execute
  simp only [h]

theorem autoBridge_of_amount_eq_zero (h : p.amount = 0) :
    r.autoBridge p = ofExcept (.error .invalidAmount) := by
  unfold autoBridge
  rw [if_pos h]

theorem autoBridge_eq (h : p.amount ≠ 0) :
    r.autoBridge p = r.routes p.destination (some p.amount) >>= r.execute p := by
  unfold autoBridge
  rw [if_neg h]
  rfl

/-- An automatic transfer with the routes that were listed for it: what it asks, and its result. -/
structure AutoBridged (r : Router) (p : AutoParams) (past : List (Event Wallet.interface))
    (listed : Except BridgeError (List Route)) (log : List (Event Wallet.interface))
    (result : Except BridgeError AutoResult) : Prop where
  /-- Calls are submitted on the signer of the selected source alone, to its token contract. -/
  writes : (∀ e ∈ log, submits e.request = false) ∨
    ∃ found route source signer, listed = .ok found ∧
      Route.select found (p.strategy.getD r.settings.strategy) p.preferred = some route ∧
      Chain.name source = route.source ∧
      (∃ e ∈ past ++ log, opened? e = some (route.source, signer)) ∧
      ∀ e ∈ log, submits e.request = true →
        ∃ call value, e.request = .onSigner signer (.write source.token call value)
  refused : ∀ e, result = .error e → IsRefusal e → ∀ e ∈ log, submits e.request = false
  sends : ∀ e ∈ log, ∀ signer contract param fee refund value,
    e.request = .onSigner signer (.write contract (.send param fee refund) value) →
    param.amount = p.amount ∧ Receives r p param.recipient ∧
      ∃ destination, Chain.lookup p.destination = some destination ∧
        param.endpoint = destination.endpoint
  done : ∀ x, result = .ok x → ∃ found, listed = .ok found ∧
    Route.select found (p.strategy.getD r.settings.strategy) p.preferred = some x.route ∧
    x.route.available = true ∧ (∃ fee, x.route.nativeFee = some fee) ∧
    x.route.source ≠ x.route.destination ∧
    x.execution.source = x.route.source ∧ x.execution.destination = x.route.destination ∧
    x.execution.seconds = x.route.seconds ∧ x.execution.sent = p.amount ∧
    x.strategy = p.strategy.getD r.settings.strategy

theorem AutoBridged.of_silent {listed : Except BridgeError (List Route)} {e : BridgeError}
    (h : ∀ e ∈ log, submits e.request = false) :
    AutoBridged r p past listed log (.error e) where
  writes := .inl h
  refused _ _ _ := h
  sends e he _ _ _ _ _ _ hreq := by
    have := h e he
    rw [hreq] at this
    cases this
  done := nofun

theorem Transferred.autoBridged {source : Chain} {signer : Wallet.ChainSigner}
    {z : Except BridgeError Transfer.Execution}
    (h : Transferred r p route source destination signer log z)
    (hsilent : ∀ e ∈ l, submits e.request = false)
    (hd : Chain.lookup p.destination = some destination)
    (hsel : Route.select found (p.strategy.getD r.settings.strategy) p.preferred = some route)
    (hname : source.name = route.source)
    (hopened : ∃ e ∈ past ++ l, opened? e = some (route.source, signer))
    (hfee : ∃ fee, route.nativeFee = some fee) (hne : route.source ≠ route.destination) :
    AutoBridged r p past (.ok found) (l ++ log)
      (z.map fun execution => ⟨execution, route, p.strategy.getD r.settings.strategy⟩) where
  writes := by
    obtain ⟨e, he, hopened⟩ := hopened
    refine .inr ⟨found, route, source, signer, rfl, hsel, hname, ⟨e, ?_, hopened⟩, ?_⟩
    · rw [← List.append_assoc]
      exact List.mem_append_left _ he
    · intro e he hsub
      rcases List.mem_append.1 he with he | he
      · rw [hsilent e he] at hsub
        cases hsub
      · exact h.writes e he hsub
  refused := by
    intro e hy href
    rw [h.refused e (Bridge.eq_error_of_map hy) href, List.append_nil]
    exact hsilent
  sends := by
    intro e he signer contract param fee refund value hreq
    rcases List.mem_append.1 he with he | he
    · have := hsilent e he
      rw [hreq] at this
      cases this
    · obtain ⟨ha, hr, hp⟩ := h.sends e he _ _ _ _ _ _ hreq
      exact ⟨ha, hr, destination, hd, hp⟩
  done := by
    intro x hy
    cases z with
    | error e => cases hy
    | ok execution =>
      cases hy
      obtain ⟨hsent, hsource, hdestination, hseconds⟩ := h.done execution rfl
      exact ⟨found, rfl, hsel, (Route.mem_of_select hsel).2, hfee, hne, hsource, hdestination,
        hseconds, hsent, rfl⟩

theorem ends_execute {y : Except BridgeError AutoResult}
    (hsel : Route.select found (p.strategy.getD r.settings.strategy) p.preferred = some route)
    (h : Work.Ends (r.execute p found) before log y after) :
    ∃ z mid, Work.Ends (r.bridge (r.sendOn p route)) before log z mid ∧
      y = z.map fun execution => ⟨execution, route, p.strategy.getD r.settings.strategy⟩ := by
  rw [execute_of_select_eq_some hsel] at h
  rcases Work.ends_bind h with ⟨e, h₁, rfl⟩ | ⟨execution, mid, l₁, l₂, rfl, h₁, h₂⟩
  · exact ⟨_, _, h₁, rfl⟩
  · obtain ⟨rfl, rfl, -⟩ := Work.ends_ofExcept (x := .ok _) h₂
    exact ⟨_, _, by rwa [List.append_nil], rfl⟩

theorem forall_of_ends_execute {Q : Signer.Request → Prop} {y : Except BridgeError AutoResult}
    (hQ : ∀ route (c : Bridge.Client) l y, Program.Ends (c.send (r.sendOn p route)).run l y →
      ∀ e ∈ l, Q e.request)
    (h : Work.Ends (r.execute p found) before log y after) :
    ∀ e ∈ log, ∀ signer q, e.request = .onSigner signer q → Q q := by
  cases hsel : Route.select found (p.strategy.getD r.settings.strategy) p.preferred with
  | none =>
    rw [execute_of_select_eq_none hsel] at h
    obtain ⟨rfl, -⟩ := Work.ends_ofExcept h
    exact fun _ he => absurd he List.not_mem_nil
  | some route =>
    obtain ⟨_, _, hbridge, -⟩ := ends_execute hsel h
    exact Work.forall_of_ends_bridge (hQ route) hbridge

theorem Surveyed.autoBridged {y : Except BridgeError AutoResult}
    (hs : Surveyed r destination (some p.amount) before l found cache)
    (hr : Reached r.wallet past before) (hd : Chain.lookup p.destination = some destination)
    (hamount : p.amount ≠ 0) (h : Work.Ends (r.execute p found) cache log y after) :
    AutoBridged r p past (.ok found) (l ++ log) y := by
  have hsilent : ∀ e ∈ l, submits e.request = false := fun e he => hs.submits_eq_false he
  cases hsel : Route.select found (p.strategy.getD r.settings.strategy) p.preferred with
  | none =>
    rw [execute_of_select_eq_none hsel] at h
    obtain ⟨rfl, rfl, -⟩ := Work.ends_ofExcept h
    rw [List.append_nil]
    exact .of_silent hsilent
  | some route =>
    obtain ⟨hmem, havail⟩ := Route.mem_of_select hsel
    obtain ⟨z, mid, hz, rfl⟩ := ends_execute hsel h
    obtain ⟨source, signer, hname, hopened, ht⟩ := hs.transferred hr hmem havail hamount hz
    obtain ⟨source', hname', hne, hdest, -, hfee⟩ := hs.route hr hmem
    refine ht.autoBridged hsilent hd hsel hname hopened (hfee havail).1 ?_
    rw [hdest, ← hname']
    exact fun heq => hne (Chain.name_injective heq)

/-- Whoever answers, an automatic transfer starts with a survey and submits calls only for the route
that is selected of the routes listed. -/
theorem autoBridge_bridged {σ : Type} (h : Handler Wallet.interface σ) (order : Arrangement)
    (hc : Reached r.wallet past cache) (p : AutoParams) (now : Nat) (s : σ) :
    let survey :=
      Flow.run h order ((ExceptT.run (r.routes p.destination (some p.amount))).run cache) now s
    let run := Flow.run h order ((ExceptT.run (r.autoBridge p)).run cache) now s
    AutoBridged r p past survey.result.1 run.events run.result.1 ∧
      (p.amount ≠ 0 → survey.events <+: run.events) := by
  intro survey run
  have hrun : Work.Ends (r.autoBridge p) cache run.events run.result.1 run.result.2 :=
    Flow.ends_run h order _ now s
  have hsurvey : Work.Ends (r.routes p.destination (some p.amount)) cache survey.events
      survey.result.1 survey.result.2 := Flow.ends_run h order _ now s
  by_cases hamount : p.amount = 0
  · unfold autoBridge at hrun
    rw [if_pos hamount] at hrun
    obtain ⟨hevents, hresult, -⟩ := Work.ends_ofExcept hrun
    rw [hevents, hresult]
    exact ⟨.of_silent (fun _ he => by cases he), fun hne => absurd hamount hne⟩
  have hwanted : (some p.amount).filter (· != 0) = some p.amount := by
    simpa [Option.filter] using hamount
  have hparts := Work.run_bind h order (r.routes p.destination (some p.amount)) (r.execute p) cache
    now s
  rw [← autoBridge_eq hamount] at hparts
  rcases hparts with ⟨e, hlisted, hresult, hevents⟩ | ⟨found, l, hlisted, hevents, hends⟩
  · -- The destination is no chain, so nothing was asked.
    rw [show run.result.1 = .error e from hresult, show run.events = survey.events from hevents]
    rcases surveyed_of_ends hsurvey with ⟨-, hnil, -⟩ | ⟨_, _, _, hok, -⟩
    · rw [hnil]
      exact ⟨.of_silent (fun _ he => by cases he), fun _ => List.prefix_rfl⟩
    · cases hok.symm.trans hlisted
  · rw [show run.events = survey.events ++ l from hevents,
      show survey.result.1 = .ok found from hlisted]
    refine ⟨?_, fun _ => List.prefix_append ..⟩
    rcases surveyed_of_ends hsurvey with ⟨-, -, hno, -⟩ | ⟨destination, found', hd, hok, hs⟩
    · cases hno.symm.trans hlisted
    · cases hok.symm.trans hlisted
      rw [hwanted] at hs
      exact hs.autoBridged hc hd hamount hends

/-- A wallet with balances on Arbitrum and Ink sends the amount asked for to Unichain, whichever of
the two is selected. -/
theorem autoBridge_bridged_to_unichain :
    let w : Scripted.Wallet :=
      { address := .zero
        chains := [("arbitrum", ⟨5, 2000000000000000, false, { fee := 7 }⟩),
          ("ink", ⟨9, 2000000000000000, false, { fee := 8 }⟩)] }
    let r : Router := ⟨w.toWallet, .default⟩
    let run := Flow.run Scripted.Wallet.handler .reversed
      ((ExceptT.run (r.autoBridge { destination := "Unichain", amount := 3 })).run .empty) 0 w
    Reached r.wallet [] .empty ∧
    ∀ e ∈ run.events, ∀ signer contract param fee refund value,
      e.request = .onSigner signer (.write contract (.send param fee refund) value) →
      param.amount = 3 ∧ param.endpoint = 30320 := by
  intro w r run
  refine ⟨.empty, fun e he signer contract param fee refund value hreq => ?_⟩
  obtain ⟨hbridged, -⟩ := autoBridge_bridged (r := r) Scripted.Wallet.handler .reversed .empty
    { destination := "Unichain", amount := 3 } 0 w
  obtain ⟨hamount, -, destination, hd, hendpoint⟩ :=
    hbridged.sends e he signer contract param fee refund value hreq
  obtain rfl : destination = .unichain := by
    have hunichain : Chain.lookup "Unichain" = some .unichain := by decide +kernel
    exact Option.some.inj (hd.symm.trans hunichain)
  exact ⟨hamount, hendpoint⟩

end TokenBridge.Router
