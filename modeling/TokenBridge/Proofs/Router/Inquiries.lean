import TokenBridge.Proofs.Program.Answered
import TokenBridge.Proofs.Router.Finding

/-!
# What is asked about a source

`Router.inquiries` lists all that a survey asks about one source, by what is known
of the source in the end: its balances; its signer if they pass and no client was
kept; its quote if there is a client. A source that is surveyed by itself is
asked about so (`inquiries_of_routeFrom`). Where the answers are fixed, what was
asked is known as it is answered (`Finding.of_answeredBy`).
-/

namespace TokenBridge

open Bridge (Cache Kept)
open Bridge.Cache (Got Reached)
open Program (Ends)
open Router (refusal?)
open Wallet (signed)

namespace Finding

/-- The native balance is read only if the token balance was had. -/
def balanceReads (f : Finding) : List Wallet.interface.Request :=
  .tokenBalance f.source :: if f.token.toBool then [.nativeBalance f.source] else []

/-- The signer is opened if no client was kept and the wallet is configured for the chain. -/
def openings (f : Finding) : List Wallet.interface.Request :=
  if !f.kept && f.configured then [.openSigner f.source] else []

/-- The signer of the client that was kept, else the one that was opened. -/
def quoter? (f : Finding) (cache : Cache) : Option Wallet.ChainSigner :=
  ((cache.find? f.source).map (·.signer)).or f.signer.toOption

end Finding

namespace Router

/-- The request for the quote of what is wanted from a source, else of all that it holds. -/
def quoteRequest (r : Router) (destination : Chain) (wanted : Option Amount) (source : Chain)
    (f : Finding) (signer : Wallet.ChainSigner) : Wallet.interface.Request :=
  .onSigner signer
    (.read source.token (.quoteSend (r.quoteParam destination (wanted.getD f.held)) false))

/-- What a survey asks about a source, each once and in this order. -/
def inquiries (r : Router) (cache : Cache) (destination : Chain) (wanted : Option Amount)
    (source : Chain) (f : Finding) : List Wallet.interface.Request :=
  f.balanceReads ++
    if (f.balanceConditions r.settings.leastNative wanted).all (·.1) then
      f.openings ++ ((f.quoter? cache).map (r.quoteRequest destination wanted source f)).toList
    else []

end Router

section Stages

variable {w : Wallet} {cache after : Cache} {f : Finding} {leastNative : Amount} {b : ChainBalance}
  {l l₁ l₂ l₃ : List (Event Wallet.interface)}

theorem refusal?_eq_none_iff (amount : Option Amount) (ht : b.token = f.held)
    (he : b.eligible = (f.isRead && f.held != 0 && decide (leastNative ≤ f.gas))) :
    refusal? amount b = none ↔ (f.balanceConditions leastNative amount).all (·.1) = true := by
  rw [refusal?_eq amount ht he, Option.map_eq_none_iff, List.find?_eq_none, List.all_eq_true]
  simp

theorem Wallet.Read.map_request
    (h : Wallet.Read leastNative f.source l b) (hf : f.Tells w cache l l₂ l₃) :
    l.map (·.request) = f.balanceReads := by
  have ht := hf.token
  cases h with
  | noToken report =>
    have ht : f.token = .error report := ht
    simp [Finding.balanceReads, ht, Except.toBool]
  | noNative token | both token =>
    have ht : f.token = .ok token := ht
    simp [Finding.balanceReads, ht, Except.toBool]

theorem Bridge.Cache.Got.map_request {chain : Chain} {y : Except BridgeError Kept}
    (h : Got w cache f.source l y after) (hc : chain.name = f.source)
    (hf : f.Tells w cache l₁ l l₃) :
    l.map (·.request) = f.openings ∧ f.quoter? cache = y.toOption.map (·.signer) := by
  have hchain : Chain.lookup f.source = some chain := hc ▸ Chain.lookup_name chain
  have hk := hf.kept
  have hw := hf.configured
  have hs := hf.signer
  unfold Finding.openings Finding.quoter?
  cases h with
  | kept h => simp [hk, h, Except.toOption]
  | unconfigured h h' =>
    have hs : f.signer = .error (.of "") := hs
    simp [hk, hw, hs, h, h', Except.toOption]
  | refused report t t' h h' =>
    have hs : f.signer = .error report := hs
    simp [hk, hw, hs, h, h', Except.toOption]
  | unsupported signer t t' h h' hno => cases hno.symm.trans hchain
  | made signer made t t' h h' =>
    have hs : f.signer = .ok signer := hs
    simp [hk, hw, hs, h, h', Except.toOption, Cache.keep]

theorem Bridge.Client.Quoted.map_request {c : Bridge.Client} {p : Transfer.QuoteParams}
    {destination : Chain} {param : Contract.SendParam} {l : List (Event Signer.interface)}
    {y : Except BridgeError Transfer.Quote} (h : c.Quoted p l y)
    (hp : c.plan p Slippage.default none = .ok (destination, param))
    (signer : Wallet.ChainSigner) : (l.map (signed signer)).map (·.request) =
      [.onSigner signer (.read c.token (.quoteSend param false))] := by
  cases h with
  | refused hno => cases hno.symm.trans hp
  | failed _ _ _ hp' | malformed _ _ _ hp' | had _ _ _ hp' =>
    cases hp'.symm.trans hp
    rfl

end Stages

section Source

variable {r : Router} {chain destination : Chain} {amount : Option Amount} {f : Finding}
  {b : ChainBalance} {c : Candidate} {past l₁ l₂ l₃ : List (Event Wallet.interface)}
  {before mid after : Cache} {x : Route}

theorem Router.inquiries_congr (h : mid.find? f.source = before.find? f.source) :
    r.inquiries mid destination amount chain f = r.inquiries before destination amount chain f := by
  rw [inquiries, inquiries, Finding.quoter?, Finding.quoter?, h]

theorem Router.Tested.map_request (h : Router.Tested r destination amount b mid l₂ c after)
    (hx : Ends c.rest l₃ x) (hread : Wallet.Read r.settings.leastNative chain.name l₁ b)
    (hr : Reached r.wallet past mid) (hf : f.Tells r.wallet mid l₁ l₂ l₃)
    (hs : f.source = chain.name) (hd : chain ≠ destination) (ha : amount ≠ some 0) :
    (l₁ ++ (l₂ ++ l₃)).map (·.request) = r.inquiries mid destination amount chain f := by
  have hkey : Text.lowerCase b.chain = f.source := by rw [hread.chain, Chain.lowerCase_name, hs]
  have hreads : l₁.map (·.request) = f.balanceReads := (hs ▸ hread).map_request hf
  obtain ⟨hheld, -, helig⟩ := hread.finding hf
  have hpass := refusal?_eq_none_iff amount hheld helig
  rw [List.map_append, List.map_append, hreads, Router.inquiries, List.append_cancel_left_eq]
  cases h with
  | refused hreason =>
    obtain ⟨rfl, -⟩ := Program.ends_done.1 hx
    rw [if_neg fun hall => by cases hreason.symm.trans (hpass.2 hall)]
    rfl
  | clientless hnone hgot =>
    obtain ⟨rfl, -⟩ := Program.ends_done.1 hx
    obtain ⟨hopen, hquoter⟩ := (hkey ▸ hgot).map_request hs.symm hf
    rw [if_pos (hpass.1 hnone), hopen, hquoter]
    rfl
  | @left _ kept _ hnone hgot =>
    obtain ⟨l, y, rfl, hq, -⟩ := Router.ends_quoteRoute hx
    obtain ⟨rfl, hplan⟩ := Router.plan_of_got hnone hgot hread hr hd ha
    obtain ⟨hopen, hquoter⟩ := (hkey ▸ hgot).map_request hs.symm hf
    have hquote := hq.map_request hplan kept.signer
    rw [hheld] at hquote
    rw [if_pos (hpass.1 hnone), hopen, hquoter]
    exact congrArg (f.openings ++ ·) hquote

/-- A source that is surveyed by itself is asked about by what is known of it in the end. -/
theorem inquiries_of_routeFrom {own : List (Event Wallet.interface)}
    (h : Ends ((r.routeFrom destination amount chain.name).run mid) own (x, after))
    (hr : Reached r.wallet past mid) (hfind : mid.find? chain.name = before.find? chain.name)
    (hd : chain ≠ destination) (ha : amount ≠ some 0) :
    own.map (·.request) = r.inquiries before destination amount chain
      (Finding.of r.wallet before chain.name own) := by
  obtain ⟨b, c, l₁, l₂, l₃, heq, hread, htest, hx, hf⟩ := stages_of_routeFrom h hfind
  rw [← Router.inquiries_congr (f := Finding.of r.wallet before chain.name own) hfind, heq]
  exact htest.map_request hx hread hr (heq ▸ hf) rfl hd ha

theorem balanceReads_of_readBalance {w : Wallet} {source : String}
    {own : List (Event Wallet.interface)} {leastNative : Amount}
    (h : Ends (Wallet.readBalance leastNative source) own b) :
    own.map (·.request) = (Finding.of w before source own).balanceReads := by
  have hread := Wallet.read_of_ends h
  have hf : (Finding.of w before source (own ++ ([] ++ []))).Tells w before own [] [] :=
    Finding.of_tells w before source (fun e he => hread.asks he) nofun nofun
  rw [List.append_nil, List.append_nil] at hf
  exact Wallet.Read.map_request (f := Finding.of w before source own) hread hf

end Source

/-! ## Fixed answers -/

section Answers

variable {answers : (q : Wallet.interface.Request) → Wallet.interface.Answer q}
  {own : List (Event Wallet.interface)} {r : Router} {cache : Cache} {source destination : Chain}
  {wanted : Option Amount} {f : Finding}

theorem firstAnswer_of_answeredBy {α : Type}
    {g : Event Wallet.interface → Option (Except Report α)}
    (hg : ∀ q x t t', g ⟨q, x, t, t'⟩ = g ⟨q, x, 0, 0⟩) (ha : AnsweredBy answers own) :
    firstAnswer g own =
      ((own.map (·.request)).findSome? fun q => g ⟨q, answers q, 0, 0⟩).getD (.error (.of "")) := by
  rw [firstAnswer, List.findSome?_map]
  induction own with
  | nil => rfl
  | cons e own ih =>
    obtain ⟨he, hown⟩ := List.forall_mem_cons.1 ha
    obtain ⟨q, x, t, t'⟩ := e
    obtain rfl : x = answers q := he
    rw [List.findSome?_cons, List.findSome?_cons, hg]
    simp only [Function.comp_apply]
    split
    · rfl
    · exact ih hown

/-- Where the answers are fixed, they are what is known of a source that was asked about. -/
theorem Finding.of_answeredBy (hf : f = Finding.of r.wallet cache source.name own)
    (hasked : own.map (·.request) = r.inquiries cache destination wanted source f)
    (ha : AnsweredBy answers own) :
    f.token = answers (.tokenBalance source.name) ∧
      (f.token.toBool = true → f.native = answers (.nativeBalance source.name)) ∧
      ((f.balanceConditions r.settings.leastNative wanted).all (·.1) = true →
        (f.kept = false → f.configured = true → f.signer = answers (.openSigner source.name)) ∧
        ∀ signer, f.quoter? cache = some signer →
          f.value = answers (r.quoteRequest destination wanted source f signer)) := by
  have hs : f.source = source.name := congrArg Finding.source hf
  have htoken : f.token = _ := (congrArg Finding.token hf).trans (firstAnswer_of_answeredBy
    (by rintro (_ | _ | _ | ⟨_, _⟩) <;> intros <;> rfl) ha)
  have hnative : f.native = _ := (congrArg Finding.native hf).trans (firstAnswer_of_answeredBy
    (by rintro (_ | _ | _ | ⟨_, _⟩) <;> intros <;> rfl) ha)
  have hsigner : f.signer = _ := (congrArg Finding.signer hf).trans (firstAnswer_of_answeredBy
    (by rintro (_ | _ | _ | ⟨_, _⟩) <;> intros <;> rfl) ha)
  have hvalue : f.value = _ := (congrArg Finding.value hf).trans (firstAnswer_of_answeredBy
    (by rintro (_ | _ | _ | ⟨_, _ | _ | _⟩) <;> intros <;> rfl) ha)
  rw [hasked, Router.inquiries, Finding.balanceReads, hs] at htoken hnative hsigner hvalue
  refine ⟨htoken, fun ht => ?_, fun hall => ⟨fun hk hc => ?_, fun signer hq => ?_⟩⟩
  · rw [hnative, if_pos ht]
    rfl
  · rw [hsigner, if_pos hall, Finding.openings, hk, hc, hs]
    cases f.token.toBool <;> rfl
  · rw [hvalue, if_pos hall, hq, Finding.openings]
    cases f.token.toBool <;> cases (!f.kept && f.configured) <;> rfl

end Answers

end TokenBridge
