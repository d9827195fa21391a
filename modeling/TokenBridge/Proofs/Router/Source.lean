import TokenBridge.Proofs.Bridge.Course
import TokenBridge.Proofs.Router.Work
import TokenBridge.Proofs.Transfer

/-!
# One source

A source is tested and then, if its client was had, quoted. `Tested` lists the
three ways to come out of the test, `Quoted` those to come out of the quote.
`routeFrom` is the whole survey of one source by itself: balances, test, quote.
All that it asks is about this source (`about_of_routeFrom`).
-/

namespace TokenBridge

open Bridge (Cache Client Kept)
open Bridge.Cache (Filed Got Reached)
open Program (Ends)
open Transfer (QuoteParams)
open Wallet (about readBalance signed)

/-! ## Quotes -/

theorem Bridge.Client.plan_eq {c : Client} {p : QuoteParams} {destination : Chain}
    (hs : p.source = c.chain.name) (hd : p.destination = destination.name)
    (hne : c.chain ≠ destination) (ha : p.amount ≠ 0) (slippage : Number.Binary64)
    (gasLimit : Option (BitVec 128)) : c.plan p slippage gasLimit =
      (Transfer.sendParam destination p.amount p.recipient slippage gasLimit).map
        (destination, ·) := by
  have hown : Text.sameText p.source c.chain.name = true := by
    rw [hs]
    exact Text.sameText_refl _
  have hother : Text.sameText p.source p.destination = false := by
    rw [hs, hd, Bool.eq_false_iff, Ne, Chain.sameText_name_iff]
    exact hne
  have hv : c.validate p = .ok destination := by
    have hl : Chain.lookup p.destination = some destination := by rw [hd, Chain.lookup_name]
    simp only [Client.validate, hown, hl, hother, if_neg ha]
    rfl
  simp only [Client.plan, hv]

/-- The ways to ask a client for a quote: nothing is asked for a transfer that it cannot make, and
else the fee is read. -/
inductive Bridge.Client.Quoted (c : Client) (p : QuoteParams) :
    List (Event Signer.interface) → Except BridgeError Transfer.Quote → Prop where
  | refused {e : BridgeError} : c.plan p Slippage.default none = .error e → Quoted c p [] (.error e)
  | failed {destination : Chain} {param : Contract.SendParam} (report : Report)
      (asked answered : Nat) : c.plan p Slippage.default none = .ok (destination, param) →
      Quoted c p [⟨.read c.token (.quoteSend param false), .error report, asked, answered⟩]
        (.error (.chainCall c.chain.name "get quote" report))
  | malformed {destination : Chain} {param : Contract.SendParam} {e : BridgeError}
      (value : Contract.Value) (asked answered : Nat) :
      c.plan p Slippage.default none = .ok (destination, param) →
      Contract.MessagingFee.ofValue value = .error e →
      Quoted c p [⟨.read c.token (.quoteSend param false), .ok value, asked, answered⟩] (.error e)
  | had {destination : Chain} {param : Contract.SendParam} {fee : Contract.MessagingFee}
      {quote : Transfer.Quote} (value : Contract.Value) (asked answered : Nat) :
      c.plan p Slippage.default none = .ok (destination, param) →
      Contract.MessagingFee.ofValue value = .ok fee → quote.nativeFee = fee.native →
      Quoted c p [⟨.read c.token (.quoteSend param false), .ok value, asked, answered⟩] (.ok quote)

theorem Bridge.Client.quoted_of_ends {c : Client} {p : QuoteParams}
    {log : List (Event Signer.interface)} {y : Except BridgeError Transfer.Quote}
    (h : Ends (c.quote p).run log y) : c.Quoted p log y := by
  unfold Client.quote Client.quoteWith at h
  rcases Attempt.ends_bind.1 h with ⟨e, h₀, rfl⟩ | ⟨⟨destination, param⟩, l, l', rfl, h₀, h₁⟩
  · obtain ⟨rfl, hp⟩ := Attempt.ends_ofExcept.1 h₀
    exact .refused hp.symm
  obtain ⟨rfl, hp⟩ := Attempt.ends_ofExcept.1 h₀
  rcases Attempt.ends_bind.1 h₁ with ⟨e, h₂, rfl⟩ | ⟨fee, l, l', rfl, h₂, h₃⟩
  · rcases Bridge.ends_quoteFee h₂ with ⟨report, asked, answered, rfl, he⟩ | ⟨value, _, _, rfl, he⟩
    · cases he
      exact .failed report asked answered hp.symm
    · exact .malformed value _ _ hp.symm he.symm
  · obtain ⟨rfl, rfl⟩ := Attempt.ends_pure.1 h₃
    rcases Bridge.ends_quoteFee h₂ with ⟨_, _, _, _, he⟩ | ⟨value, asked, answered, rfl, he⟩
    · cases he
    · exact .had value asked answered hp.symm he.symm rfl

theorem Bridge.Client.Quoted.asks {c : Client} {p : QuoteParams}
    {log : List (Event Signer.interface)} {y : Except BridgeError Transfer.Quote}
    {e : Event Signer.interface} (h : c.Quoted p log y) (he : e ∈ log) :
    ∃ destination param, c.plan p Slippage.default none = .ok (destination, param) ∧
      e.request = .read c.token (.quoteSend param false) := by
  cases h with
  | refused => cases he
  | failed _ _ _ hp | malformed _ _ _ hp | had _ _ _ hp =>
    rw [List.mem_singleton.1 he]
    exact ⟨_, _, hp, rfl⟩

namespace Router

variable {r : Router} {destination : Chain} {amount : Option Amount} {b : ChainBalance}
  {before after : Cache} {log past : List (Event Wallet.interface)} {c : Candidate} {x : Route}

def quotedRoute (route : Route) (native : Amount) : Except BridgeError Transfer.Quote → Route
  | .error e => route.unavailable ("failed to get quote: " ++ e.message)
  | .ok quote =>
    if native < quote.nativeFee then
      route.unavailable "insufficient native token for bridge fee"
    else route.quoted quote.nativeFee

theorem ends_quoteRoute {route : Route} {kept : Kept} {p : QuoteParams} {native : Amount}
    (h : Ends (quoteRoute route kept p native) log x) :
    ∃ l y, log = l.map (signed kept.signer) ∧ kept.client.Quoted p l y ∧
      x = quotedRoute route native y := by
  obtain ⟨y, l, l', rfl, h₁, h₂⟩ := Program.ends_bind.1 h
  obtain ⟨l, rfl, hl⟩ := Wallet.ends_through.1 h₁
  refine ⟨l, y, ?_⟩
  cases y with
  | error e =>
    obtain ⟨rfl, rfl⟩ := Program.ends_done.1 h₂
    exact ⟨List.append_nil _, Client.quoted_of_ends hl, rfl⟩
  | ok quote =>
    by_cases hlt : native < quote.nativeFee
    · simp only [if_pos hlt, Program.ends_pure] at h₂
      obtain ⟨rfl, rfl⟩ := h₂
      exact ⟨List.append_nil _, Client.quoted_of_ends hl, (if_pos hlt).symm⟩
    · simp only [if_neg hlt, Program.ends_pure] at h₂
      obtain ⟨rfl, rfl⟩ := h₂
      exact ⟨List.append_nil _, Client.quoted_of_ends hl, (if_neg hlt).symm⟩

/-! ## Tests -/

def quoteParams (r : Router) (destination : Chain) (amount : Option Amount) (b : ChainBalance) :
    QuoteParams :=
  { source := b.chain
    destination := destination.name
    amount := amount.getD b.token
    recipient := r.wallet.address.checksummed }

/-- The parameter that an amount is quoted with. -/
def quoteParam (r : Router) (destination : Chain) (amount : Amount) : Contract.SendParam :=
  { endpoint := destination.endpoint
    recipient := r.wallet.address.toHash
    amount
    minAmount := Slippage.minAmount amount Slippage.default
    extraOptions := Contract.executorOptions none
    composeMessage := []
    command := [] }

theorem plan_quoteParams {c : Client} (hc : c.chain.name = b.chain)
    (hd : b.chain ≠ destination.name) (ha : amount.getD b.token ≠ 0) :
    c.plan (r.quoteParams destination amount b) Slippage.default none =
      .ok (destination, r.quoteParam destination (amount.getD b.token)) := by
  have hne : c.chain ≠ destination := fun heq => hd (hc ▸ congrArg Chain.name heq)
  rw [Client.plan_eq (p := r.quoteParams destination amount b) hc.symm rfl hne ha]
  simp only [quoteParams, Transfer.sendParam, Transfer.recipientHash_checksummed]
  rfl

/-- The ways to come out of the test of a source: its balance is refused, its client cannot be had,
or it is left to be quoted on its client. -/
inductive Tested (r : Router) (destination : Chain) (amount : Option Amount) (b : ChainBalance)
    (before : Cache) : List (Event Wallet.interface) → Candidate → Cache → Prop where
  | refused {reason : String} : refusal? amount b = some reason →
      Tested r destination amount b before []
        (.settled ((Route.pending b.chain destination.name b.token).unavailable reason)) before
  | clientless {log : List (Event Wallet.interface)} {e : BridgeError} {after : Cache} :
      refusal? amount b = none →
      Got r.wallet before (Text.lowerCase b.chain) log (.error e) after →
      Tested r destination amount b before log
        (.settled ((Route.pending b.chain destination.name b.token).unavailable
          ("failed to create bridge: " ++ e.message))) after
  | left {log : List (Event Wallet.interface)} {kept : Kept} {after : Cache} :
      refusal? amount b = none →
      Got r.wallet before (Text.lowerCase b.chain) log (.ok kept) after →
      Tested r destination amount b before log
        (.quoting (quoteRoute (Route.pending b.chain destination.name b.token) kept
          (r.quoteParams destination amount b) b.native)) after

theorem tested_of_ends (h : Ends (r.candidate destination amount b before) log (c, after)) :
    Tested r destination amount b before log c after := by
  unfold candidate at h
  cases hr : refusal? amount b with
  | some reason =>
    simp only [hr, Program.ends_done] at h
    obtain ⟨rfl, heq⟩ := h
    cases heq
    exact .refused hr
  | none =>
    simp only [hr] at h
    obtain ⟨⟨y, mid⟩, l, l', rfl, h₁, h₂⟩ := Program.ends_bind.1 h
    have hgot := Cache.got_of_ends h₁
    cases y with
    | error e =>
      obtain ⟨rfl, heq⟩ := Program.ends_done.1 h₂
      cases heq
      rw [List.append_nil]
      exact .clientless hr hgot
    | ok kept =>
      obtain ⟨rfl, heq⟩ := Program.ends_done.1 h₂
      cases heq
      rw [List.append_nil]
      exact .left hr hgot

theorem eligible_of_refusal? (h : refusal? amount b = none) : b.eligible = true := by
  cases he : b.eligible with
  | true => rfl
  | false => simp [refusal?, he] at h

/-- The client that a source is left with is that of its own chain, and it can make the transfer
that is quoted. -/
theorem plan_of_got {kept : Kept} {chain : Chain} {l : List (Event Wallet.interface)}
    (hno : refusal? amount b = none)
    (hgot : Got r.wallet before (Text.lowerCase b.chain) log (.ok kept) after)
    (hread : Wallet.Read r.settings.leastNative chain.name l b) (hr : Reached r.wallet past before)
    (hd : chain ≠ destination) (ha : amount ≠ some 0) :
    kept.client.chain = chain ∧
      kept.client.plan (r.quoteParams destination amount b) Slippage.default none =
        .ok (destination, r.quoteParam destination (amount.getD b.token)) := by
  have hb : b.chain = chain.name := hread.chain
  have hname : kept.client.chain.name = b.chain := by
    rw [← ((hr.got hgot).filed hgot.find?_self).chain, hb, Chain.lowerCase_name]
  have hwanted : amount.getD b.token ≠ 0 := by
    cases amount with
    | none => exact hread.token_ne_zero (eligible_of_refusal? hno)
    | some a => exact fun heq => ha (congrArg some heq)
  refine ⟨Chain.name_injective (hname.trans hb), plan_quoteParams hname ?_ hwanted⟩
  exact hb ▸ fun heq => hd (Chain.name_injective heq)

/-- What is left to do for a candidate. -/
def Candidate.rest : Candidate → Program Wallet.interface Route
  | .settled x => .done x
  | .quoting task => task

namespace Tested

variable {l : List (Event Wallet.interface)} {e : Event Wallet.interface} {chain : Chain}

theorem asks (h : Tested r destination amount b before log c after) (he : e ∈ log) :
    e.request = .openSigner (Text.lowerCase b.chain) := by
  cases h with
  | refused => cases he
  | clientless _ hg | left _ hg => exact hg.asks he

theorem reached (h : Tested r destination amount b before log c after)
    (hr : Reached r.wallet past before) : Reached r.wallet (past ++ log) after := by
  cases h with
  | refused => exact hr.idle []
  | clientless _ hg | left _ hg => exact hr.got hg

theorem find?_of_ne {other : String} (h : Tested r destination amount b before log c after)
    (hne : Text.lowerCase b.chain ≠ other) : after.find? other = before.find? other := by
  cases h with
  | refused => rfl
  | clientless _ hg | left _ hg => exact hg.find?_of_ne hne

theorem find?_mono {key : String} {kept : Kept}
    (h : Tested r destination amount b before log c after) (hk : before.find? key = some kept) :
    after.find? key = some kept := by
  cases h with
  | refused => exact hk
  | clientless _ hg | left _ hg => exact hg.find?_mono hk

theorem rest_asks (h : Tested r destination amount b before log c after)
    (hx : Ends c.rest l x) (he : e ∈ l) :
    ∃ kept d param, after.find? (Text.lowerCase b.chain) = some kept ∧
      kept.client.plan (r.quoteParams destination amount b) Slippage.default none =
        .ok (d, param) ∧
      e.request = .onSigner kept.signer (.read kept.client.token (.quoteSend param false)) := by
  cases h with
  | refused | clientless =>
    obtain ⟨rfl, -⟩ := Program.ends_done.1 hx
    cases he
  | left _ hg =>
    obtain ⟨l, y, rfl, hq, -⟩ := ends_quoteRoute hx
    obtain ⟨e₁, he₁, rfl⟩ := List.mem_map.1 he
    obtain ⟨d, param, hp, hr⟩ := hq.asks he₁
    exact ⟨_, d, param, hg.find?_self, hp, congrArg _ hr⟩

theorem rest_route (h : Tested r destination amount b before log c after)
    (hx : Ends c.rest l x) :
    x.source = b.chain ∧ x.destination = destination.name ∧ x.amount = b.token ∧
      x.seconds = Chain.estimatedDelivery b.chain destination.name ∧
      (x.available = true → (∃ fee, x.nativeFee = some fee) ∧
        ∃ kept, after.find? (Text.lowerCase b.chain) = some kept) := by
  cases h with
  | refused | clientless =>
    obtain ⟨-, rfl⟩ := Program.ends_done.1 hx
    exact ⟨rfl, rfl, rfl, rfl, nofun⟩
  | left _ hg =>
    obtain ⟨-, y, -, -, rfl⟩ := ends_quoteRoute hx
    unfold quotedRoute
    split
    · exact ⟨rfl, rfl, rfl, rfl, nofun⟩
    · split
      · exact ⟨rfl, rfl, rfl, rfl, nofun⟩
      · exact ⟨rfl, rfl, rfl, rfl, fun _ => ⟨⟨_, rfl⟩, _, hg.find?_self⟩⟩

theorem about (h : Tested r destination amount b before log c after) (hb : chain.name = b.chain)
    (he : e ∈ log) : about b.chain e = true := by
  rw [← hb]
  apply Wallet.about_of_subject
  rw [h.asks he, ← hb, Chain.lowerCase_name]
  exact Chain.lookup_name chain

theorem rest_about (h : Tested r destination amount b before log c after)
    (hr : Reached r.wallet past before) (hb : chain.name = b.chain) (hx : Ends c.rest l x)
    (he : e ∈ l) : Wallet.about b.chain e = true := by
  obtain ⟨kept, d, param, hk, -, hreq⟩ := h.rest_asks hx he
  have hchain : chain = kept.client.chain := by
    apply Chain.name_injective
    rw [← ((h.reached hr).filed hk).chain, ← hb, Chain.lowerCase_name]
  rw [← hb]
  apply Wallet.about_of_subject
  rw [hreq, hchain]
  exact Wallet.find?_token _

end Tested

theorem Tried.tested {bs : List ChainBalance} {cs : List Candidate}
    (h : Tried r destination amount bs before log cs after) :
    List.Forall₂ (fun b c => ∃ mid l last, Tested r destination amount b mid l c last) bs cs := by
  induction h with
  | nil => exact .nil
  | cons hb _ ih => exact .cons ⟨_, _, _, tested_of_ends hb⟩ ih

/-- The survey of one source by itself. -/
def routeFrom (r : Router) (destination : Chain) (amount : Option Amount) (source : String) :
    StateT Cache (Program Wallet.interface) Route := fun cache =>
  (readBalance r.settings.leastNative source).bind fun b =>
    (r.candidate destination amount b cache).bind fun (c, after) =>
      c.rest.bind fun x => .done (x, after)

end Router

end TokenBridge
