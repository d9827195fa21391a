import TokenBridge.Proofs.Router.Source

/-!
# How a route is judged

A `Finding` is what is known of one source in the end: whether its client was
kept before, and what its balances, its signer and its quote were answered with.
Its `conditions` stand in the order in which they count. `Judged` says of a route
that it is available exactly when they all hold, with the quoted fee, and that
else its reason is that of the first one that fails. The route that a source
gives by itself is judged so (`judged_of_routeFrom`).
-/

namespace TokenBridge

open Bridge (Cache Kept)
open Bridge.Cache (Got Reached)
open Contract (MessagingFee)
open Program (Ends)
open Router (refusal?)
open Wallet (about signed)

/-! ## Answers -/

/-- The first answer of a kind in a log; what was not answered counts as a failure. -/
def firstAnswer {α : Type} (f : Event Wallet.interface → Option (Except Report α))
    (log : List (Event Wallet.interface)) : Except Report α :=
  (log.findSome? f).getD (.error (.of ""))

def tokenAnswer? : Event Wallet.interface → Option (Except Report Amount)
  | ⟨.tokenBalance _, x, _, _⟩ => some x
  | _ => none

def nativeAnswer? : Event Wallet.interface → Option (Except Report Amount)
  | ⟨.nativeBalance _, x, _, _⟩ => some x
  | _ => none

def signerAnswer? : Event Wallet.interface → Option (Except Report Wallet.ChainSigner)
  | ⟨.openSigner _, x, _, _⟩ => some x
  | _ => none

def valueAnswer? : Event Wallet.interface → Option (Except Report Contract.Value)
  | ⟨.onSigner _ (.read ..), x, _, _⟩ => some x
  | _ => none

/-- What is known of one source. -/
@[ext]
structure Finding where
  source : String
  /-- Its client was kept before. -/
  kept : Bool
  /-- The wallet is configured for it. -/
  configured : Bool
  token : Except Report Amount
  native : Except Report Amount
  signer : Except Report Wallet.ChainSigner
  /-- The answer to the quote. -/
  value : Except Report Contract.Value

/-- What the events about a source tell, if the cache was this one at first. -/
def Finding.of (w : Wallet) (cache : Cache) (source : String)
    (own : List (Event Wallet.interface)) : Finding where
  source
  kept := (cache.find? source).isSome
  configured := w.isConfigured source
  token := firstAnswer tokenAnswer? own
  native := firstAnswer nativeAnswer? own
  signer := firstAnswer signerAnswer? own
  value := firstAnswer valueAnswer? own

namespace Finding

/-! ## Conditions -/

def isRead (f : Finding) : Bool := f.token.toBool && f.native.toBool

/-- The token balance; zero where a read has failed. -/
def held (f : Finding) : Amount :=
  match f.token, f.native with
  | .ok token, .ok _ => token
  | _, _ => 0

/-- The native balance; zero where a read has failed. -/
def gas (f : Finding) : Amount :=
  match f.token, f.native with
  | .ok _, .ok native => native
  | _, _ => 0

/-- Whether the client was kept or could be made. -/
def client (f : Finding) : Except BridgeError Unit :=
  if f.kept then .ok ()
  else if !f.configured then .error (.chainNotConfigured f.source)
  else match f.signer with
    | .error report => .error (.chainCall f.source "get signer" report)
    | .ok _ => .ok ()

def fee (f : Finding) : Except BridgeError Amount :=
  match f.value with
  | .error report => .error (.chainCall f.source "get quote" report)
  | .ok value => (MessagingFee.ofValue value).map (·.native)

def messageOf {α : Type} : Except BridgeError α → String
  | .error e => e.message
  | .ok _ => ""

/-- The conditions on the balances of a source, each with the reason if it fails. -/
def balanceConditions (f : Finding) (leastNative : Amount) (amount : Option Amount) :
    List (Bool × String) :=
  [(f.isRead, "insufficient USDT0 balance"),
   (decide (0 < f.held), "insufficient USDT0 balance"),
   (decide (leastNative ≤ f.gas), "insufficient native token for gas"),
   (amount.all (· ≤ f.held), "insufficient balance: have " ++ f.held.decimal ++ ", need " ++
      (amount.getD 0).decimal)]

/-- The conditions on the client and the quote of a source. -/
def quoteConditions (f : Finding) : List (Bool × String) :=
  [(f.client.toBool, "failed to create bridge: " ++ messageOf f.client),
   (f.fee.toBool, "failed to get quote: " ++ messageOf f.fee),
   (decide (f.fee.toOption.getD 0 ≤ f.gas), "insufficient native token for bridge fee")]

def conditions (f : Finding) (leastNative : Amount) (amount : Option Amount) :
    List (Bool × String) :=
  f.balanceConditions leastNative amount ++ f.quoteConditions

end Finding

/-- The route is available if all conditions hold, with the quoted fee; else the first that fails is
the reason. -/
structure Judged (f : Finding) (goal : Chain) (leastNative : Amount) (wanted : Option Amount)
    (x : Route) : Prop where
  source : x.source = f.source
  destination : x.destination = goal.name
  amount : x.amount = f.held
  seconds : x.seconds = Chain.estimatedDelivery f.source goal.name
  available_iff : x.available = true ↔ ∀ c ∈ f.conditions leastNative wanted, c.1 = true
  fee : x.available = true → ∃ fee, f.fee = .ok fee ∧ x.nativeFee = some fee ∧ x.reason = none
  reason : x.available = false → x.nativeFee = none ∧
    ∃ c, (f.conditions leastNative wanted).find? (!·.1) = some c ∧ x.reason = some c.2

namespace Judged

variable {f : Finding} {destination : Chain} {leastNative : Amount} {amount : Option Amount}
  {x y : Route}

theorem unique (hx : Judged f destination leastNative amount x)
    (hy : Judged f destination leastNative amount y) : x = y := by
  have ha : x.available = y.available := by
    rw [Bool.eq_iff_iff]
    exact hx.available_iff.trans hy.available_iff.symm
  have hrest : x.nativeFee = y.nativeFee ∧ x.reason = y.reason := by
    cases h : x.available with
    | true =>
      obtain ⟨fee, hf, hn, hr⟩ := hx.fee h
      obtain ⟨fee', hf', hn', hr'⟩ := hy.fee (ha ▸ h)
      obtain rfl : fee = fee' := Except.ok.inj (hf.symm.trans hf')
      exact ⟨hn.trans hn'.symm, hr.trans hr'.symm⟩
    | false =>
      obtain ⟨hn, c, hc, hr⟩ := hx.reason h
      obtain ⟨hn', c', hc', hr'⟩ := hy.reason (ha ▸ h)
      obtain rfl : c = c' := Option.some.inj (hc.symm.trans hc')
      exact ⟨hn.trans hn'.symm, hr.trans hr'.symm⟩
  obtain ⟨s, d, n, t, a, why, m⟩ := x
  obtain ⟨s', d', n', t', a', why', m'⟩ := y
  obtain ⟨rfl, rfl⟩ := hrest
  obtain rfl : a = a' := ha
  obtain rfl : s = s' := hx.source.trans hy.source.symm
  obtain rfl : d = d' := hx.destination.trans hy.destination.symm
  obtain rfl : m = m' := hx.amount.trans hy.amount.symm
  obtain rfl : t = t' := hx.seconds.trans hy.seconds.symm
  rfl

theorem unavailable {c : Bool × String}
    (h : (f.conditions leastNative amount).find? (!·.1) = some c) :
    Judged f destination leastNative amount
      ((Route.pending f.source destination.name f.held).unavailable c.2) where
  source := rfl
  destination := rfl
  amount := rfl
  seconds := rfl
  available_iff := by
    refine ⟨nofun, fun hall => ?_⟩
    have hc := List.find?_some h
    rw [hall c (List.mem_of_find?_eq_some h)] at hc
    cases hc
  fee := nofun
  reason _ := ⟨rfl, c, h, rfl⟩

theorem quoted {fee : Amount} (h : ∀ c ∈ f.conditions leastNative amount, c.1 = true)
    (hf : f.fee = .ok fee) :
    Judged f destination leastNative amount
      ((Route.pending f.source destination.name f.held).quoted fee) where
  source := rfl
  destination := rfl
  amount := rfl
  seconds := rfl
  available_iff := ⟨fun _ => h, fun _ => rfl⟩
  fee _ := ⟨fee, hf, rfl, rfl⟩
  reason := nofun

end Judged

/-! ## Answers of one source -/

section Answers

variable {α : Type} {g : Event Wallet.interface → Option (Except Report α)}
  {l l' l₁ l₂ l₃ log : List (Event Wallet.interface)} {leastNative : Amount} {name : String}
  {b : ChainBalance} {f : Finding} {w : Wallet} {cache : Cache}

theorem firstAnswer_append_left (h : ∀ e ∈ l, g e = none) :
    firstAnswer g (l ++ l') = firstAnswer g l' := by
  rw [firstAnswer, List.findSome?_append, List.findSome?_eq_none_iff.2 h]
  rfl

theorem firstAnswer_append_right (h : ∀ e ∈ l', g e = none) :
    firstAnswer g (l ++ l') = firstAnswer g l := by
  rw [firstAnswer, List.findSome?_append, List.findSome?_eq_none_iff.2 h, Option.or_none]
  rfl

/-- A finding that tells what was answered in the three stages of its source, which are its
balances, its signer and its quote, if the cache was this one at first. -/
structure Finding.Tells (f : Finding) (w : Wallet) (cache : Cache)
    (l₁ l₂ l₃ : List (Event Wallet.interface)) : Prop where
  kept : f.kept = (cache.find? f.source).isSome
  configured : f.configured = w.isConfigured f.source
  token : f.token = firstAnswer tokenAnswer? l₁
  native : f.native = firstAnswer nativeAnswer? l₁
  signer : f.signer = firstAnswer signerAnswer? l₂
  value : f.value = firstAnswer valueAnswer? l₃

theorem Wallet.Read.finding (h : Wallet.Read leastNative name l b)
    (hf : f.Tells w cache l l₂ l₃) : b.token = f.held ∧ b.native = f.gas ∧
      b.eligible = (f.isRead && f.held != 0 && decide (leastNative ≤ f.gas)) := by
  have ht := hf.token
  have hn := hf.native
  cases h with
  | noToken report t t' =>
    have ht : f.token = .error report := ht
    simp [Finding.held, Finding.gas, Finding.isRead, ht, ChainBalance.unavailable, Except.toBool]
  | noNative token report t t' u u' =>
    have ht : f.token = .ok token := ht
    have hn : f.native = .error report := hn
    simp [Finding.held, Finding.gas, Finding.isRead, ht, hn, ChainBalance.unavailable,
      Except.toBool]
  | both token native t t' u u' =>
    have ht : f.token = .ok token := ht
    have hn : f.native = .ok native := hn
    simp [Finding.held, Finding.gas, Finding.isRead, ht, hn, ChainBalance.of, Except.toBool]

/-- A balance is refused with the reason of the first condition on it that fails. -/
theorem refusal?_eq (amount : Option Amount) (ht : b.token = f.held)
    (he : b.eligible = (f.isRead && f.held != 0 && decide (leastNative ≤ f.gas))) :
    refusal? amount b = ((f.balanceConditions leastNative amount).find? (!·.1)).map (·.2) := by
  have hread : f.isRead = false → f.held = 0 := by
    intro h
    unfold Finding.isRead at h
    unfold Finding.held
    split
    · next ht hn =>
      rw [ht, hn] at h
      cases h
    · rfl
  cases hr : f.isRead with
  | false => simp [refusal?, Finding.balanceConditions, ht, he, hr, hread hr]
  | true =>
    by_cases hz : f.held = 0#256
    · simp [refusal?, Finding.balanceConditions, ht, he, hr, hz]
    have hpos : 0#256 < f.held := (BitVec.pos_iff_ne_zero _).2 hz
    by_cases hg : leastNative ≤ f.gas
    · cases amount with
      | none => simp [refusal?, Finding.balanceConditions, he, hr, hz, hpos, hg]
      | some a =>
        by_cases ha : f.held < a
        · have hle : ¬ a ≤ f.held := by bv_omega
          simp [refusal?, Finding.balanceConditions, ht, he, hr, hz, hpos, hg, ha, hle]
        · have hle : a ≤ f.held := by bv_omega
          simp [refusal?, Finding.balanceConditions, ht, he, hr, hz, hpos, hg, ha, hle]
    · simp [refusal?, Finding.balanceConditions, ht, he, hr, hz, hpos, hg]

theorem Bridge.Cache.Got.client {chain : Chain} {after : Cache} {y : Except BridgeError Kept}
    (h : Got w cache f.source l y after) (hc : chain.name = f.source)
    (hf : f.Tells w cache l₁ l l₃) : f.client = y.map fun _ => () := by
  have hchain : Chain.lookup f.source = some chain := hc ▸ Chain.lookup_name chain
  have hk := hf.kept
  have hw := hf.configured
  have hs := hf.signer
  unfold Finding.client
  cases h with
  | kept h => simp [hk, h, Except.map]
  | unconfigured h h' => simp [hk, hw, h, h', Except.map]
  | refused report t t' h h' =>
    have hs : f.signer = .error report := hs
    simp [hk, hw, hs, h, h', Except.map]
  | unsupported signer t t' h h' hno => cases hno.symm.trans hchain
  | made signer made t t' h h' =>
    have hs : f.signer = .ok signer := hs
    simp [hk, hw, hs, h, h', Except.map]

theorem Bridge.Client.Quoted.fee {c : Bridge.Client} {p : Transfer.QuoteParams}
    {destination : Chain} {param : Contract.SendParam} {signer : Wallet.ChainSigner}
    {l : List (Event Signer.interface)} {y : Except BridgeError Transfer.Quote}
    (h : c.Quoted p l y) (hp : c.plan p Slippage.default none = .ok (destination, param))
    (hc : c.chain.name = f.source) (hf : f.Tells w cache l₁ l₂ (l.map (signed signer))) :
    f.fee = y.map (·.nativeFee) := by
  have hv := hf.value
  unfold Finding.fee
  cases h with
  | refused hno => cases hno.symm.trans hp
  | failed report =>
    have hv : f.value = .error report := hv
    simp [hv, hc, Except.map]
  | malformed value _ _ _ he =>
    have hv : f.value = .ok value := hv
    simp [hv, he, Except.map]
  | had value _ _ _ he hn =>
    have hv : f.value = .ok value := hv
    simp [hv, he, hn, Except.map]

end Answers

/-! ## The route of one source -/

section Requests

variable {e : Event Wallet.interface} {name : String}

theorem answers_of_balance (h : e.request = .tokenBalance name ∨ e.request = .nativeBalance name) :
    signerAnswer? e = none ∧ valueAnswer? e = none := by
  obtain ⟨r, x, t, t'⟩ := e
  rcases h with h | h <;> cases h <;> exact ⟨rfl, rfl⟩

theorem answers_of_openSigner (h : e.request = .openSigner name) :
    tokenAnswer? e = none ∧ nativeAnswer? e = none ∧ valueAnswer? e = none := by
  obtain ⟨r, x, t, t'⟩ := e
  cases h
  exact ⟨rfl, rfl, rfl⟩

theorem answers_of_onSigner {signer : Wallet.ChainSigner} {q : Signer.Request}
    (h : e.request = .onSigner signer q) :
    tokenAnswer? e = none ∧ nativeAnswer? e = none ∧ signerAnswer? e = none := by
  obtain ⟨r, x, t, t'⟩ := e
  cases h
  exact ⟨rfl, rfl, rfl⟩

end Requests

namespace Finding

variable {f : Finding} {leastNative : Amount} {amount : Option Amount}

theorem find?_conditions_of_some {c : Bool × String}
    (h : (f.balanceConditions leastNative amount).find? (!·.1) = some c) :
    (f.conditions leastNative amount).find? (!·.1) = some c := by
  rw [conditions, List.find?_append, h]
  rfl

theorem find?_conditions_of_none
    (h : (f.balanceConditions leastNative amount).find? (!·.1) = none) :
    (f.conditions leastNative amount).find? (!·.1) = f.quoteConditions.find? (!·.1) := by
  rw [conditions, List.find?_append, h]
  rfl

end Finding

namespace Judged

variable {f : Finding} {goal : Chain} {leastNative : Amount} {wanted : Option Amount}

theorem clientless {e : BridgeError}
    (hb : (f.balanceConditions leastNative wanted).find? (!·.1) = none)
    (hc : f.client = .error e) :
    Judged f goal leastNative wanted ((Route.pending f.source goal.name f.held).unavailable
      ("failed to create bridge: " ++ e.message)) := by
  have hfirst : (f.conditions leastNative wanted).find? (!·.1) =
      some (false, "failed to create bridge: " ++ e.message) := by
    rw [Finding.find?_conditions_of_none hb]
    simp [Finding.quoteConditions, hc, Except.toBool, Finding.messageOf]
  exact .unavailable hfirst

theorem quotedRoute {y : Except BridgeError Transfer.Quote}
    (hb : (f.balanceConditions leastNative wanted).find? (!·.1) = none)
    (hc : f.client = .ok ()) (hf : f.fee = y.map (·.nativeFee)) :
    Judged f goal leastNative wanted
      (Router.quotedRoute (Route.pending f.source goal.name f.held) f.gas y) := by
  cases y with
  | error e =>
    have hfee : f.fee = .error e := hf
    have hfirst : (f.conditions leastNative wanted).find? (!·.1) =
        some (false, "failed to get quote: " ++ e.message) := by
      rw [Finding.find?_conditions_of_none hb]
      simp [Finding.quoteConditions, hc, hfee, Except.toBool, Finding.messageOf]
    exact .unavailable hfirst
  | ok quote =>
    have hfee : f.fee = .ok quote.nativeFee := hf
    by_cases hlt : f.gas < quote.nativeFee
    · have hfirst : (f.conditions leastNative wanted).find? (!·.1) =
          some (false, "insufficient native token for bridge fee") := by
        rw [Finding.find?_conditions_of_none hb]
        simp [Finding.quoteConditions, hc, hfee, Except.toBool, Except.toOption, hlt]
      rw [Router.quotedRoute, if_pos hlt]
      exact .unavailable hfirst
    · have hall : (f.conditions leastNative wanted).find? (!·.1) = none := by
        rw [Finding.find?_conditions_of_none hb]
        simp [Finding.quoteConditions, hc, hfee, Except.toBool, Except.toOption,
          BitVec.not_lt.1 hlt]
      rw [Router.quotedRoute, if_neg hlt]
      refine .quoted (fun cond hcond => ?_) hfee
      simpa using List.find?_eq_none.1 hall cond hcond

end Judged

theorem Finding.of_tells (w : Wallet) (cache : Cache) (source : String) {name : String}
    {l₁ l₂ l₃ : List (Event Wallet.interface)}
    (h₁ : ∀ e ∈ l₁, e.request = .tokenBalance name ∨ e.request = .nativeBalance name)
    (h₂ : ∀ e ∈ l₂, e.request = .openSigner name)
    (h₃ : ∀ e ∈ l₃, ∃ signer q, e.request = .onSigner signer q) :
    (Finding.of w cache source (l₁ ++ (l₂ ++ l₃))).Tells w cache l₁ l₂ l₃ := by
  have hlater : ∀ e ∈ l₂ ++ l₃, tokenAnswer? e = none ∧ nativeAnswer? e = none := by
    intro e he
    rcases List.mem_append.1 he with he | he
    · have := answers_of_openSigner (h₂ e he)
      exact ⟨this.1, this.2.1⟩
    · obtain ⟨signer, q, hq⟩ := h₃ e he
      have := answers_of_onSigner hq
      exact ⟨this.1, this.2.1⟩
  have hquote : ∀ e ∈ l₃, signerAnswer? e = none := by
    intro e he
    obtain ⟨signer, q, hq⟩ := h₃ e he
    exact (answers_of_onSigner hq).2.2
  refine ⟨rfl, rfl, ?_, ?_, ?_, ?_⟩
  · exact firstAnswer_append_right fun e he => (hlater e he).1
  · exact firstAnswer_append_right fun e he => (hlater e he).2
  · exact (firstAnswer_append_left fun e he => (answers_of_balance (h₁ e he)).1).trans
      (firstAnswer_append_right hquote)
  · exact (firstAnswer_append_left fun e he => (answers_of_balance (h₁ e he)).2).trans
      (firstAnswer_append_left fun e he => (answers_of_openSigner (h₂ e he)).2.2)

section Source

variable {r : Router} {chain destination : Chain} {amount : Option Amount} {f : Finding}
  {b : ChainBalance} {c : Candidate} {past l₁ l₂ l₃ : List (Event Wallet.interface)}
  {before mid after : Cache} {x : Route}

theorem Router.Tested.judged (h : Router.Tested r destination amount b mid l₂ c after)
    (hx : Ends c.rest l₃ x) (hread : Wallet.Read r.settings.leastNative chain.name l₁ b)
    (hr : Reached r.wallet past mid) (hf : f.Tells r.wallet mid l₁ l₂ l₃)
    (hs : f.source = chain.name) (hd : chain ≠ destination) (ha : amount ≠ some 0) :
    Judged f destination r.settings.leastNative amount x := by
  have hb : chain.name = b.chain := hread.chain.symm
  have hkey : Text.lowerCase b.chain = f.source := by rw [← hb, Chain.lowerCase_name, hs]
  obtain ⟨hheld, hgas, helig⟩ := hread.finding hf
  have hrefusal := refusal?_eq amount hheld helig
  have hpending : Route.pending b.chain destination.name b.token =
      Route.pending f.source destination.name f.held := by rw [hs, hb, hheld]
  cases h with
  | refused hreason =>
    obtain ⟨-, rfl⟩ := Program.ends_done.1 hx
    rw [hrefusal, Option.map_eq_some_iff] at hreason
    obtain ⟨cond, hcond, rfl⟩ := hreason
    rw [hpending]
    exact .unavailable (Finding.find?_conditions_of_some hcond)
  | @clientless _ e _ hnone hgot =>
    obtain ⟨-, rfl⟩ := Program.ends_done.1 hx
    rw [hrefusal, Option.map_eq_none_iff] at hnone
    rw [hkey] at hgot
    have hclient : f.client = .error e := hgot.client hs.symm hf
    rw [hpending]
    exact .clientless hnone hclient
  | @left _ kept _ hnone hgot =>
    obtain ⟨l, y, rfl, hq, rfl⟩ := Router.ends_quoteRoute hx
    obtain ⟨hchain, hplan⟩ := Router.plan_of_got hnone hgot hread hr hd ha
    rw [hrefusal, Option.map_eq_none_iff] at hnone
    rw [hkey] at hgot
    have hclient : f.client = .ok () := hgot.client hs.symm hf
    have hfee := hq.fee hplan ((congrArg Chain.name hchain).trans hs.symm) hf
    rw [hpending, hgas]
    exact .quotedRoute hnone hclient hfee

/-- A source that is surveyed by itself goes through its stages, and what is known of it tells of
them. -/
theorem stages_of_routeFrom {own : List (Event Wallet.interface)}
    (h : Ends ((r.routeFrom destination amount chain.name).run mid) own (x, after))
    (hfind : mid.find? chain.name = before.find? chain.name) :
    ∃ b c l₁ l₂ l₃, own = l₁ ++ (l₂ ++ l₃) ∧
      Wallet.Read r.settings.leastNative chain.name l₁ b ∧
      Router.Tested r destination amount b mid l₂ c after ∧ Ends c.rest l₃ x ∧
      (Finding.of r.wallet before chain.name own).Tells r.wallet mid l₁ l₂ l₃ := by
  obtain ⟨b, l₁, l', rfl, h₁, h₂⟩ := Program.ends_bind.1 h
  obtain ⟨⟨c, last⟩, l₂, l', rfl, h₃, h₄⟩ := Program.ends_bind.1 h₂
  obtain ⟨x', l₃, l', rfl, h₅, h₆⟩ := Program.ends_bind.1 h₄
  obtain ⟨rfl, heq⟩ := Program.ends_done.1 h₆
  cases heq
  rw [List.append_nil]
  have hread := Wallet.read_of_ends h₁
  have htest := Router.tested_of_ends h₃
  have hkey : Text.lowerCase b.chain = chain.name := by rw [hread.chain, Chain.lowerCase_name]
  have hf : (Finding.of r.wallet before chain.name (l₁ ++ (l₂ ++ l₃))).Tells r.wallet before
      l₁ l₂ l₃ := by
    refine Finding.of_tells r.wallet before chain.name (fun e he => hread.asks he)
      (fun e he => hkey ▸ htest.asks he) (fun e he => ?_)
    obtain ⟨kept, _, _, -, -, hq⟩ := htest.rest_asks h₅ he
    exact ⟨_, _, hq⟩
  -- The source has had no other test, so it found the cache as it was at first.
  exact ⟨b, c, l₁, l₂, l₃, rfl, hread, htest, h₅, { hf with kept := hfind ▸ hf.kept }⟩

/-- The route that a source gives by itself is judged by its conditions. -/
theorem judged_of_routeFrom {own : List (Event Wallet.interface)}
    (h : Ends ((r.routeFrom destination amount chain.name).run mid) own (x, after))
    (hr : Reached r.wallet past mid) (hfind : mid.find? chain.name = before.find? chain.name)
    (hd : chain ≠ destination) (ha : amount ≠ some 0) :
    Judged (Finding.of r.wallet before chain.name own) destination r.settings.leastNative amount
      x := by
  obtain ⟨b, c, l₁, l₂, l₃, -, hread, htest, hx, hf⟩ := stages_of_routeFrom h hfind
  exact htest.judged hx hread hr hf rfl hd ha

end Source

end TokenBridge
