import TokenBridge.Proofs.Router.AutoBridge
import TokenBridge.Proofs.Spelling

/-!
# Operations under other spellings

The router looks a destination up, takes a client by the lower-case form of its
source, and compares a preferred source without regard to case. So each of its
operations asks the same under every spelling, and leaves the same clients in the
cache. With the operations of a client and of payments this is
`spelling_irrelevant`: two runs that differ in the letter case of chain names
differ at most in the names that a failure repeats.
-/

namespace TokenBridge

open Bridge (Cache Client Kept)
open Program (Ends)
open Transfer (QuoteParams SendParams)

namespace Router

variable {α β : Type} {r : Router} {p : AutoParams}
  {source source' destination destination' : String} {preferred preferred' : Option String}
  {before after : Cache} {log : List (Event Wallet.interface)} {found : List Route} {x : Route}

/-! ## Work -/

/-- The results are retold, and the clients that are kept are the same. -/
def Settles (x y : Except BridgeError α × Cache) : Prop := Retold x.1 y.1 ∧ x.2 = y.2

theorem Settles.refl (x : Except BridgeError α × Cache) : Settles x x := ⟨.refl x.1, rfl⟩

/-- With every cache to start from, both pieces of work ask the same and settle alike. -/
def Work.Matched (x y : Work α) : Prop :=
  ∀ cache, Flow.Matched Settles ((ExceptT.run x).run cache) ((ExceptT.run y).run cache)

theorem Work.Matched.refl (x : Work α) : x.Matched x := fun _ => .refl Settles.refl _

theorem Work.Matched.bind {x y : Work α} {f g : α → Work β} (hx : x.Matched y)
    (hf : ∀ a, (f a).Matched (g a)) : (x >>= f).Matched (y >>= g) := by
  intro cache
  refine Flow.Matched.bind (hx cache) ?_
  rintro ⟨a, mid⟩ ⟨b, _⟩ ⟨h, rfl⟩
  cases h with
  | ok a => exact hf a mid
  | error he => exact .done ⟨.error he, rfl⟩

theorem Work.matched_ofExcept {x y : Except BridgeError α} (h : Retold x y) :
    Work.Matched (ofExcept x) (ofExcept y) := fun _ => .done ⟨h, rfl⟩

theorem Work.matched_through (kept : Kept) {q q' : Client.Work α}
    (h : q.run.Matched Retold q'.run) : Work.Matched (through kept q) (through kept q') := by
  intro cache
  have hflow : Flow.Matched Retold (.ofProgram (Wallet.through kept.signer q.run))
      (.ofProgram (Wallet.through kept.signer q'.run)) := .ofProgram h.relay
  -- The program is lifted over the cache and over failures, and its outcome is then unwrapped.
  refine Flow.Matched.bind (R := fun a b => ∃ y y', Retold y y' ∧ a = (.ok y, cache) ∧
    b = (.ok y', cache)) ?_ ?_
  · refine Flow.Matched.bind (R := fun a b => Retold a.1 b.1 ∧ a.2 = cache ∧ b.2 = cache) ?_ ?_
    · exact hflow.bind fun y y' hy => .done ⟨hy, rfl, rfl⟩
    · rintro ⟨y, _⟩ ⟨y', _⟩ ⟨hy, rfl, rfl⟩
      exact .done ⟨y, y', hy, rfl, rfl⟩
  · rintro _ _ ⟨y, y', hy, rfl, rfl⟩
    exact .done ⟨hy, rfl⟩

/-! ## Operations -/

theorem client_eq_of_sameText (h : Text.sameText source source' = true) :
    r.client source = r.client source' := by
  unfold client Cache.get
  rw [Text.lowerCase_eq_of_sameText h]

theorem bridge_matched (hs : Text.sameText source source' = true)
    (hd : Text.sameText destination destination' = true) (t : SendParams) :
    (r.bridge { t with quote := { t.quote with source, destination } }).Matched
      (r.bridge { t with
        quote := { t.quote with source := source', destination := destination' } }) := by
  unfold bridge
  rw [client_eq_of_sameText hs]
  exact (Work.Matched.refl _).bind fun kept =>
    Work.matched_through kept (Client.send_matched hs hd kept.client t)

theorem routes_matched (hd : Text.sameText destination destination' = true)
    (amount : Option Amount) :
    (r.routes destination amount).Matched (r.routes destination' amount) := by
  unfold routes
  rw [Chain.lookup_eq_of_sameText hd]
  cases Chain.lookup destination' with
  | none => exact Work.matched_ofExcept (.unsupported hd)
  | some chain => exact .refl _

theorem from?_eq_of_sameText (h : Text.sameText source source' = true) (routes : List Route) :
    Route.from? source routes = Route.from? source' routes := by
  unfold Route.from?
  rw [Text.isEmpty_eq_of_sameText h]
  congr 2
  exact funext fun x => Text.sameText_congr (Text.sameText_refl _) h

theorem select_eq_of_sameText
    (h : Option.Rel (Text.sameText · · = true) preferred preferred') (routes : List Route)
    (strategy : Strategy) :
    Route.select routes strategy preferred = Route.select routes strategy preferred' := by
  cases h with
  | none => rfl
  | some h =>
    cases strategy with
    | cheapest | fastest => rfl
    | preferred =>
      unfold Route.select
      simp only [Option.bind_some, from?_eq_of_sameText h]

theorem autoBridge_matched (hd : Text.sameText destination destination' = true)
    (hp : Option.Rel (Text.sameText · · = true) preferred preferred') (p : AutoParams) :
    (r.autoBridge { p with destination, preferred }).Matched
      (r.autoBridge { p with destination := destination', preferred := preferred' }) := by
  unfold autoBridge
  by_cases hamount : p.amount = 0
  · rw [if_pos hamount, if_pos hamount]
    exact .refl _
  rw [if_neg hamount, if_neg hamount]
  refine (routes_matched hd _).bind fun found => ?_
  simp only [select_eq_of_sameText hp]
  cases Route.select found (p.strategy.getD r.settings.strategy) preferred' with
  | none => exact Work.matched_ofExcept (.noRoute p.amount hd)
  | some route => exact .refl _

/-! ## Results -/

theorem registered_of_ends_routes {wanted : Option Amount}
    (h : Work.Ends (r.routes destination wanted) before log (.ok found) after) (hx : x ∈ found) :
    Registered none destination (x.source, x.destination) := by
  obtain ⟨chain, hd, hs⟩ := surveyed_of_ends_ok h
  have htested : ∃ b c mid l last l', (∃ source : Chain, source.name = b.chain) ∧
      Tested r chain (wanted.filter (· != 0)) b mid l c last ∧ Ends c.rest l' x := by
    cases hs with
    | @mk _ _ _ _ _ _ candidates _ _ hperm hread htried hqperm hquote =>
      have hcandidate : ∃ c ∈ candidates, ∃ l', Ends c.rest l' x := by
        rcases List.mem_append.1 (List.mem_mergeSort.1 hx) with hx | hx
        · exact ⟨_, mem_of_mem_settled hx, [], .done x⟩
        · obtain ⟨q, hq, l', hl⟩ := hquote.mem_result hx
          exact ⟨_, mem_of_mem_quoting (hqperm.mem_iff.1 hq), l', hl⟩
      obtain ⟨c, hc, l', hl⟩ := hcandidate
      obtain ⟨b, hb, mid, l, last, htest⟩ := Program.exists_key_of_forall₂ htried.tested hc
      obtain ⟨hname, -⟩ := read_of_mem_sources hperm hread hb
      exact ⟨b, c, mid, l, last, l', (Wallet.mem_tokenChains.1 hname).2, htest, hl⟩
  obtain ⟨b, c, mid, l, last, l', ⟨source, hname⟩, htest, hends⟩ := htested
  obtain ⟨hsource, hdestination, -⟩ := htest.rest_route hends
  exact ⟨⟨source, hname.trans hsource.symm, nofun⟩, ⟨chain, hdestination.symm, hd⟩⟩

theorem registered_of_ends_bridge {t : SendParams} {e : Transfer.Execution}
    (h : Work.Ends (r.bridge t) before log (.ok e) after) :
    Registered (some t.quote.source) t.quote.destination (e.source, e.destination) := by
  rcases Work.bridge_cases h with ⟨_, -, ⟨⟩⟩ | ⟨kept, l, l', -, -, hsend⟩
  exact Client.registered_of_ends_send hsend

theorem registered_of_ends_autoBridge {a : AutoResult}
    (h : Work.Ends (r.autoBridge p) before log (.ok a) after) :
    Registered none p.destination (a.route.source, a.route.destination) ∧
      Registered none p.destination (a.execution.source, a.execution.destination) := by
  by_cases hamount : p.amount = 0
  · rw [autoBridge_of_amount_eq_zero hamount] at h
    cases (Work.ends_ofExcept h).2.1
  rw [autoBridge_eq hamount] at h
  rcases Work.ends_bind h with ⟨_, -, ⟨⟩⟩ | ⟨found, mid, l, l', -, hroutes, hrest⟩
  cases hsel : Route.select found (p.strategy.getD r.settings.strategy) p.preferred with
  | none =>
    rw [execute_of_select_eq_none hsel] at hrest
    cases (Work.ends_ofExcept hrest).2.1
  | some route =>
    obtain ⟨z, last, hbridge, hz⟩ := ends_execute hsel hrest
    obtain ⟨execution, rfl, rfl⟩ := Bridge.eq_ok_of_map hz.symm
    have hroute := registered_of_ends_routes hroutes (Route.mem_of_select hsel).1
    obtain ⟨⟨source, hsource, hnamed⟩, ⟨chain, hchain, hlooked⟩⟩ :=
      registered_of_ends_bridge hbridge
    obtain ⟨last', hlast, hd⟩ := hroute.destination
    refine ⟨hroute, ⟨source, hsource, nofun⟩, ⟨chain, hchain, ?_⟩⟩
    -- The transfer is to the destination of the route, which is a name of the registry.
    have hto : Chain.lookup route.destination = some last' := by
      rw [← show last'.name = route.destination from hlast]
      exact Chain.lookup_name last'
    rw [hd, ← hto]
    exact hlooked

end Router

/-! ## The whole -/

/-- Whoever answers for the signer, both programs have the same events, which leave the same state
at the same time, and their outcomes are retold; a value has the names of the registry. -/
def Bridge.Client.Interchangeable {α : Type} (source : Option String) (destination : String)
    (legs : α → List (String × String)) (q q' : Client.Work α) : Prop :=
  ∀ {σ : Type} (h : Handler Signer.interface σ) (now : Nat) (s : σ),
    let run := Program.run h q.run now s
    run.Matched Retold (Program.run h q'.run now s) ∧
      ∀ a, run.result = .ok a → ∀ leg ∈ legs a, Registered source destination leg

/-- The same of two pieces of work, whoever answers for the wallet, in whichever order spawned
programs finish and whatever is kept: they leave the same clients. -/
def Router.Interchangeable {α : Type} (source : Option String) (destination : String)
    (legs : α → List (String × String)) (x x' : Router.Work α) : Prop :=
  ∀ {σ : Type} (h : Handler Wallet.interface σ) (order : Arrangement) (cache : Cache) (now : Nat)
    (s : σ),
    let run := Flow.run h order ((ExceptT.run x).run cache) now s
    run.Matched Router.Settles (Flow.run h order ((ExceptT.run x').run cache) now s) ∧
      ∀ a, run.result.1 = .ok a → ∀ leg ∈ legs a, Registered source destination leg

theorem Bridge.Client.interchangeable {α : Type} {source : Option String} {destination : String}
    {legs : α → List (String × String)} {q q' : Client.Work α} (h : q.run.Matched Retold q'.run)
    (hr : ∀ log a, Ends q.run log (.ok a) → ∀ leg ∈ legs a, Registered source destination leg) :
    Client.Interchangeable source destination legs q q' := by
  intro σ handler now s run
  refine ⟨h.run handler now s, fun a ha => hr run.events a ?_⟩
  rw [← ha]
  exact Program.ends_run handler q.run now s

theorem Router.interchangeable {α : Type} {source : Option String} {destination : String}
    {legs : α → List (String × String)} {x x' : Router.Work α} (h : x.Matched x')
    (hr : ∀ before log a after, Router.Work.Ends x before log (.ok a) after →
      ∀ leg ∈ legs a, Registered source destination leg) :
    Router.Interchangeable source destination legs x x' := by
  intro σ handler order cache now s run
  refine ⟨(h cache).run handler order now s, fun a ha => hr cache run.events a run.result.2 ?_⟩
  rw [← ha]
  exact Flow.ends_run handler order _ now s

/-- In every operation, chain names in other letters make no difference but in the names that a
failure repeats: quotes and transfers of a client, payments and their estimates, and the routes and
the transfers of a router. -/
theorem spelling_irrelevant {source source' destination destination' : String}
    {preferred preferred' : Option String} (hs : Text.sameText source source' = true)
    (hd : Text.sameText destination destination' = true)
    (hp : Option.Rel (Text.sameText · · = true) preferred preferred') (c : Client) (r : Router)
    (quote : QuoteParams) (slippage : Number.Binary64) (gasLimit : Option (BitVec 128))
    (transfer : SendParams) (payment : Payment.Params) (amount : Option Amount)
    (auto : Router.AutoParams) :
    Client.Interchangeable (some source) destination (fun q => [(q.source, q.destination)])
      (c.quoteWith { quote with source, destination } slippage gasLimit)
      (c.quoteWith { quote with source := source', destination := destination' } slippage
        gasLimit) ∧
    Client.Interchangeable (some source) destination (fun e => [(e.source, e.destination)])
      (c.send { transfer with quote := { transfer.quote with source, destination } })
      (c.send { transfer with
        quote := { transfer.quote with source := source', destination := destination' } }) ∧
    Client.Interchangeable (some source) destination (fun x => [(x.source, x.destination)])
      (Payment.pay c { payment with source, destination })
      (Payment.pay c { payment with source := source', destination := destination' }) ∧
    Client.Interchangeable (some source) destination (fun q => [(q.source, q.destination)])
      (Payment.estimate c { payment with source, destination })
      (Payment.estimate c { payment with source := source', destination := destination' }) ∧
    Router.Interchangeable none destination (·.map fun x => (x.source, x.destination))
      (r.routes destination amount) (r.routes destination' amount) ∧
    Router.Interchangeable (some source) destination (fun e => [(e.source, e.destination)])
      (r.bridge { transfer with quote := { transfer.quote with source, destination } })
      (r.bridge { transfer with
        quote := { transfer.quote with source := source', destination := destination' } }) ∧
    Router.Interchangeable none destination
      (fun a => [(a.route.source, a.route.destination),
        (a.execution.source, a.execution.destination)])
      (r.autoBridge { auto with destination, preferred })
      (r.autoBridge { auto with destination := destination', preferred := preferred' }) := by
  refine ⟨?_, ?_, ?_, ?_, ?_, ?_, ?_⟩
  · refine Client.interchangeable (Client.quoteWith_matched hs hd c quote slippage gasLimit) ?_
    exact fun _ q hq => List.forall_mem_singleton.2 (Client.registered_of_ends_quoteWith hq)
  · refine Client.interchangeable (Client.send_matched hs hd c transfer) ?_
    exact fun _ e he => List.forall_mem_singleton.2 (Client.registered_of_ends_send he)
  · refine Client.interchangeable (Payment.pay_matched hs hd c payment) ?_
    exact fun _ x hx => List.forall_mem_singleton.2 (Payment.registered_of_ends_pay hx)
  · refine Client.interchangeable (Payment.estimate_matched hs hd c payment) ?_
    exact fun _ q hq => List.forall_mem_singleton.2 (Client.registered_of_ends_quoteWith hq)
  · refine Router.interchangeable (Router.routes_matched hd amount) ?_
    intro _ _ found _ hfound leg hleg
    obtain ⟨x, hx, rfl⟩ := List.mem_map.1 hleg
    exact Router.registered_of_ends_routes hfound hx
  · refine Router.interchangeable (Router.bridge_matched hs hd transfer) ?_
    exact fun _ _ e _ he => List.forall_mem_singleton.2 (Router.registered_of_ends_bridge he)
  · refine Router.interchangeable (Router.autoBridge_matched hd hp auto) ?_
    intro _ _ a _ ha
    obtain ⟨hroute, hexecution⟩ := Router.registered_of_ends_autoBridge ha
    exact List.forall_mem_cons.2 ⟨hroute, List.forall_mem_singleton.2 hexecution⟩

/-- A payment once more in capitals, and a transfer from a preferred source. -/
theorem spelling_irrelevant_in_capitals :
    let c : Client := ⟨.arbitrum, .zero⟩
    let p : Payment.Params :=
      { payer := "0x1234567890123456789012345678901234567890", payee := "", amount := 1000
        source := "", destination := "", slippage := Slippage.default }
    let pay (source destination : String) :=
      Program.run Scripted.Signer.handler (Payment.pay c { p with source, destination }).run 0
        { fee := 7 }
    let w : Scripted.Wallet :=
      { address := .zero
        chains := [("arbitrum", ⟨5, 2000000000000000, false, { fee := 7 }⟩)] }
    let r : Router := ⟨w.toWallet, .default⟩
    let auto : Router.AutoParams := { destination := "", amount := 3, strategy := some .preferred }
    let transfer (destination preferred : String) :=
      Flow.run Scripted.Wallet.handler .asSpawned ((ExceptT.run (r.autoBridge
        { auto with destination, preferred := some preferred })).run .empty) 0 w
    Text.sameText "Arbitrum" "ARBITRUM" = true ∧ Text.sameText "unichain" "UNICHAIN" = true ∧
      (pay "ARBITRUM" "UNICHAIN").events = (pay "Arbitrum" "unichain").events ∧
      (∃ x, (pay "Arbitrum" "unichain").result = .ok x ∧
        (pay "ARBITRUM" "UNICHAIN").result = .ok x ∧ x.source = "arbitrum") ∧
      (transfer "UNICHAIN" "ARBITRUM").events = (transfer "unichain" "Arbitrum").events := by
  intro c p pay w r auto transfer
  have hs : Text.sameText "Arbitrum" "ARBITRUM" = true := by decide +kernel
  have hd : Text.sameText "unichain" "UNICHAIN" = true := by decide +kernel
  have hresult : (pay "Arbitrum" "unichain").result.map (·.source) = .ok "arbitrum" := by
    decide +kernel
  obtain ⟨-, -, hpay, -, -, -, hauto⟩ := spelling_irrelevant hs hd (.some hs) c r ⟨"", "", 3, ""⟩
    Slippage.default none { quote := ⟨"", "", 3, ""⟩ } p none auto
  obtain ⟨⟨hevents, -, -, hretold⟩, -⟩ := hpay Scripted.Signer.handler 0 { fee := 7 }
  obtain ⟨⟨hasked, -, -, -⟩, -⟩ := hauto Scripted.Wallet.handler .asSpawned .empty 0 w
  have hretold : Retold (pay "Arbitrum" "unichain").result (pay "ARBITRUM" "UNICHAIN").result :=
    hretold
  obtain ⟨x, hx, hsource⟩ := Bridge.eq_ok_of_map hresult
  rw [hx] at hretold
  refine ⟨hs, hd, hevents, ⟨x, hx, ?_, hsource⟩, hasked⟩
  generalize (pay "ARBITRUM" "UNICHAIN").result = y at hretold
  cases hretold
  rfl

end TokenBridge
