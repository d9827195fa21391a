import TokenBridge.Proofs.Router.Refusal
import TokenBridge.Proofs.Router.Selection
import TokenBridge.Proofs.Transfer.Recipient

/-!
# Recipients of the router

A survey quotes for the wallet's own address, and an automatic transfer goes to
it unless a recipient is given. The text of this address is always taken: a
survey lists no route as refused for its recipient (`Surveyed.not_isMisaddressed`),
and an automatic transfer is refused only for a recipient that was given and is
no address (`misaddressed_of_ends_autoBridge`). `recipients_exact` says this next
to what texts are taken for recipients and what is made of them.
-/

namespace TokenBridge

open Address (Spells)
open Bridge (Cache Client)
open Text (foldChar)
open Transfer (QuoteParams SendParams recipientHash)

/-! ## Beginnings of texts -/

namespace Text

def Begins (word text : String) : Prop := word.toList <+: text.toList

instance (word text : String) : Decidable (Begins word text) :=
  inferInstanceAs (Decidable (_ <+: _))

variable {word other text : String}

theorem begins_append (word rest : String) : Begins word (word ++ rest) := by
  rw [Begins, String.toList_append]
  exact List.prefix_append ..

theorem Begins.append (h : Begins word text) (rest : String) : Begins word (text ++ rest) := by
  rw [Begins, String.toList_append]
  exact h.trans (List.prefix_append ..)

theorem Begins.append_left (h : Begins word text) (front : String) :
    Begins (front ++ word) (front ++ text) := by
  rw [Begins, String.toList_append, String.toList_append]
  exact (List.prefix_append_right_inj _).2 h

theorem Begins.of_le (h : Begins word text) (h' : Begins other text)
    (hle : word.toList.length ≤ other.toList.length) : Begins word other :=
  List.prefix_of_prefix_length_le h h' hle

end Text

open Text (Begins)

/-! ## Refusals of an address -/

/-- The failure tells of a text that is no address. -/
inductive BridgeError.IsMisaddressed : BridgeError → Prop where
  | intro (field value reason : String) : IsMisaddressed (.invalidAddress field value reason)

/-- The quote of the route was refused for a text that is no address. -/
def Route.IsMisaddressed (x : Route) : Prop :=
  ∃ e : BridgeError, e.IsMisaddressed ∧ x.reason = some ("failed to get quote: " ++ e.message)

def Route.misaddressed : String := "failed to get quote: " ++ "invalid "

theorem Route.not_isMisaddressed {x : Route} {word reason : String} (hx : x.reason = some reason)
    (hword : Begins word reason) (hle : word.toList.length ≤ misaddressed.toList.length)
    (hother : ¬ Begins word misaddressed) : ¬ x.IsMisaddressed := by
  rintro ⟨_, ⟨field, value, why⟩, heq⟩
  have hreason : Begins misaddressed reason := by
    rw [Option.some.inj (hx.symm.trans heq)]
    refine Begins.append_left ?_ _
    exact ((((Text.begins_append _ _).append _).append _).append _).append _
  exact hother (hword.of_le hreason hle)

/-! ## Clients -/

/-- The first letters of what a failed quote is told as. -/
def quoteFailures : List String := ["s", "c", "a", "f", "u"]

theorem Route.not_begins_misaddressed : ∀ letter ∈ quoteFailures,
    ("failed to get quote: " ++ letter).toList.length ≤ misaddressed.toList.length ∧
      ¬ Begins ("failed to get quote: " ++ letter) misaddressed := by
  decide +kernel

namespace Bridge.Client

variable {c : Client} {p : QuoteParams} {e : BridgeError}

theorem exists_initial_of_validate (h : c.validate p = .error e) :
    ∃ letter ∈ quoteFailures, Begins letter e.message := by
  revert h
  fun_cases validate c p with
  | case1 =>
    rintro ⟨⟩
    have hbegins : Begins "s" "source chain mismatch: bridge initialized for " := by
      decide +kernel
    exact ⟨"s", by decide, ((hbegins.append _).append _).append _⟩
  | case2 =>
    rintro ⟨⟩
    have hbegins : Begins "c" "chain " := by decide +kernel
    exact ⟨"c", by decide, ((hbegins.append _).append _).append _⟩
  | case3 =>
    rintro ⟨⟩
    exact ⟨"s", by decide, by decide +kernel⟩
  | case4 =>
    rintro ⟨⟩
    exact ⟨"a", by decide, by decide +kernel⟩
  | case5 =>
    intro h
    cases h

theorem not_isMisaddressed_of_validate (h : c.validate p = .error e) : ¬ e.IsMisaddressed := by
  revert h
  fun_cases validate c p with
  | case1 | case2 | case3 | case4 => rintro ⟨⟩ ⟨⟩
  | case5 =>
    intro h
    cases h

theorem Quoted.exists_initial {hash : Hash} {log : List (Event Signer.interface)}
    (hr : recipientHash p.recipient = .ok hash) (h : c.Quoted p log (.error e)) :
    ∃ letter ∈ quoteFailures, Begins letter e.message := by
  cases h with
  | refused hp =>
    unfold plan at hp
    cases hv : c.validate p with
    | error e' =>
      rw [hv] at hp
      cases hp
      exact exists_initial_of_validate hv
    | ok destination =>
      rw [hv] at hp
      cases hr.symm.trans (Transfer.sendParam_eq_error.1 (eq_error_of_map hp))
  | failed report =>
    have hbegins : Begins "f" "failed to " := by decide +kernel
    exact ⟨"f", by decide, ((((hbegins.append _).append _).append _).append _).append _⟩
  | malformed value _ _ _ hv =>
    obtain ⟨detail, rfl⟩ := Contract.MessagingFee.ofValue_eq_error hv
    have hbegins : Begins "u" "unexpected " := by decide +kernel
    exact ⟨"u", by decide, ((hbegins.append _).append _).append _⟩

theorem recipientHash_of_ends_send {t : SendParams} {log : List (Event Signer.interface)}
    (h : Program.Ends (c.send t).run log (.error e)) (he : e.IsMisaddressed) :
    recipientHash t.quote.recipient = .error e := by
  cases hp : c.plan t.quote t.slippage t.gasLimit with
  | ok planned =>
    obtain ⟨course, -, hcourse⟩ := sends_of_ends hp h
    obtain ⟨field, value, reason⟩ := he
    exact absurd (.inl rfl) hcourse.not_isRefusal
  | error e' =>
    obtain ⟨-, heq⟩ := ends_send_of_plan_eq_error hp h
    cases heq
    unfold plan at hp
    cases hv : c.validate t.quote with
    | error e' =>
      rw [hv] at hp
      cases hp
      exact absurd he (not_isMisaddressed_of_validate hv)
    | ok destination =>
      rw [hv] at hp
      exact Transfer.sendParam_eq_error.1 (eq_error_of_map hp)

end Bridge.Client

/-! ## Surveys -/

namespace Router

open Bridge.Cache (Got)
open Program (Ends)

variable {r : Router} {p : AutoParams} {destination : Chain} {wanted : Option Amount}
  {before after : Cache} {log : List (Event Wallet.interface)} {found : List Route}

theorem exists_initial_of_refusal? {b : ChainBalance} {reason : String}
    (h : refusal? wanted b = some reason) : Begins "i" reason := by
  revert h
  fun_cases refusal? wanted b with
  | case1 =>
    rintro ⟨⟩
    split <;> decide +kernel
  | case2 =>
    rintro ⟨⟩
    have hbegins : Begins "i" "insufficient balance: have " := by decide +kernel
    exact ((hbegins.append _).append _).append _
  | case3 | case4 => nofun

theorem recipientHash_quoteParams {b : ChainBalance} :
    recipientHash (r.quoteParams destination wanted b).recipient = .ok r.wallet.address.toHash := by
  rw [quoteParams]
  exact Transfer.recipientHash_checksummed _

theorem Tested.not_isMisaddressed {b : ChainBalance} {c : Candidate} {x : Route}
    {l : List (Event Wallet.interface)}
    (h : Tested r destination wanted b before log c after) (hx : Ends c.rest l x) :
    ¬ x.IsMisaddressed := by
  cases h with
  | refused hreason =>
    obtain ⟨-, rfl⟩ := Program.ends_done.1 hx
    exact Route.not_isMisaddressed rfl (exists_initial_of_refusal? hreason) (by decide +kernel)
      (by decide +kernel)
  | clientless =>
    obtain ⟨-, rfl⟩ := Program.ends_done.1 hx
    exact Route.not_isMisaddressed rfl (Text.begins_append "failed to create bridge: " _)
      (by decide +kernel) (by decide +kernel)
  | left _ hg =>
    obtain ⟨_, y, -, hq, rfl⟩ := ends_quoteRoute hx
    cases y with
    | error e =>
      obtain ⟨letter, hletter, hbegins⟩ := hq.exists_initial recipientHash_quoteParams
      obtain ⟨hle, hother⟩ := Route.not_begins_misaddressed letter hletter
      exact Route.not_isMisaddressed rfl (hbegins.append_left _) hle hother
    | ok quote =>
      by_cases hlt : b.native < quote.nativeFee
      · rw [quotedRoute, if_pos hlt]
        have hbegins : Begins "i" "insufficient native token for bridge fee" := by decide +kernel
        exact Route.not_isMisaddressed rfl hbegins (by decide +kernel) (by decide +kernel)
      · rw [quotedRoute, if_neg hlt]
        rintro ⟨_, -, heq⟩
        cases heq

theorem Surveyed.not_isMisaddressed {x : Route}
    (h : Surveyed r destination wanted before log found after) (hx : x ∈ found) :
    ¬ x.IsMisaddressed := by
  obtain ⟨_, _, _, _, _, _, htest, hends⟩ := h.exists_tested hx
  exact htest.not_isMisaddressed hends

theorem Surveyed.recipient_eq {e : Event Wallet.interface} {signer : Wallet.ChainSigner}
    {contract : Address} {param : Contract.SendParam} {native : Bool}
    (h : Surveyed r destination wanted before log found after) (he : e ∈ log)
    (hreq : e.request = .onSigner signer (.read contract (.quoteSend param native))) :
    param.recipient = r.wallet.address.toHash := by
  rcases h.event_cases he with ⟨name, hask | hask | hask⟩ | ⟨_, _, _, _, _, _, _, htest, hx, he⟩
  · cases hask.symm.trans hreq
  · cases hask.symm.trans hreq
  · cases hask.symm.trans hreq
  · obtain ⟨kept, d, param', -, hplan, hask⟩ := htest.rest_asks hx he
    cases hask.symm.trans hreq
    obtain ⟨-, -, -, hhash⟩ := Transfer.sendParam_eq_ok (Client.plan_eq_ok hplan)
    exact Except.ok.inj (hhash.symm.trans recipientHash_quoteParams)

/-! ## Automatic transfers -/

theorem recipientError?_of_ends_autoBridge {e : BridgeError}
    (h : Work.Ends (r.autoBridge p) before log (.error e) after) (he : e.IsMisaddressed) :
    recipientError? p = some e := by
  by_cases hamount : p.amount = 0
  · rw [autoBridge_of_amount_eq_zero hamount] at h
    obtain ⟨-, heq, -⟩ := Work.ends_ofExcept h
    cases heq
    cases he
  rw [autoBridge_eq hamount] at h
  rcases Work.ends_bind h with ⟨e', hlisted, heq⟩ | ⟨found, mid, l, l', rfl, -, hexecute⟩
  · rcases surveyed_of_ends hlisted with ⟨-, -, hy, -⟩ | ⟨_, _, -, hy, -⟩
    · cases heq
      cases hy
      cases he
    · cases hy
  cases hsel : Route.select found (p.strategy.getD r.settings.strategy) p.preferred with
  | none =>
    rw [execute_of_select_eq_none hsel] at hexecute
    obtain ⟨-, heq, -⟩ := Work.ends_ofExcept hexecute
    cases heq
    cases he
  | some route =>
    obtain ⟨z, mid, hz, hy⟩ := ends_execute hsel hexecute
    obtain rfl := Bridge.eq_error_of_map hy.symm
    rcases Work.bridge_cases hz with ⟨e', hgot, heq⟩ | ⟨kept, l, l', rfl, -, hsend⟩
    · cases heq
      cases hgot <;> cases he
    · exact recipientHash_sendOn.1 (Client.recipientHash_of_ends_send hsend he)

theorem recipientError?_eq_some {field value reason : String}
    (h : recipientError? p = some (.invalidAddress field value reason)) :
    p.recipient = some value ∧ value ≠ "" ∧ ¬ ∃ digits, Spells value digits := by
  obtain ⟨text, htext, h⟩ := Option.bind_eq_some_iff.1 h
  obtain ⟨hgiven, hne⟩ := Option.filter_eq_some_iff.1 htext
  split at h
  · cases h
  · next hread =>
    cases h
    refine ⟨hgiven, ?_, ?_⟩
    · rintro rfl
      cases hne
    · rintro ⟨digits, hs⟩
      obtain ⟨a, ha⟩ := hs.exists_read
      cases ha.symm.trans hread

/-! ## The whole -/

/-- A text is taken for a recipient exactly if it is forty hexadecimal digits, with the mark `0x` in
front of them or not, and the hash holds the address that these write. Texts have one hash exactly
if their digits are the same up to case. A hash with twelve zero bytes in front is that of the text
of its address. So, whoever answers, a survey quotes for the wallet's own address and no route is
refused for it, and an automatic transfer is refused for a recipient only if one is given that
spells no digits. -/
theorem recipients_exact :
    (∀ text hash, recipientHash text = .ok hash ↔
      ∃ digits, Spells text digits ∧ hash.Holds digits) ∧
    (∀ text, (∃ hash, recipientHash text = .ok hash) ↔ ∃ digits, Spells text digits) ∧
    (∀ text text' digits digits', Spells text digits → Spells text' digits' →
      (recipientHash text = recipientHash text' ↔
        digits.map foldChar = digits'.map foldChar)) ∧
    (∀ hash : Hash, hash.bytes.take 12 = List.replicate 12 0 →
      recipientHash (Address.ofHash hash).checksummed = .ok hash ∧
        recipientHash (Address.ofHash hash).text = .ok hash) ∧
    ∀ {σ : Type} (h : Handler Wallet.interface σ) (order : Arrangement) (r : Router)
      (cache : Cache) (name : String) (amount : Option Amount) (p : AutoParams) (now : Nat) (s : σ),
      let survey := Flow.run h order ((ExceptT.run (r.routes name amount)).run cache) now s
      let run := Flow.run h order ((ExceptT.run (r.autoBridge p)).run cache) now s
      recipientHash r.wallet.address.checksummed = .ok r.wallet.address.toHash ∧
      (∀ e ∈ survey.events, ∀ signer contract param native,
        e.request = .onSigner signer (.read contract (.quoteSend param native)) →
        param.recipient = r.wallet.address.toHash) ∧
      (∀ e, survey.result.1 = .error e → ¬ e.IsMisaddressed) ∧
      (∀ found, survey.result.1 = .ok found → ∀ x ∈ found, ¬ x.IsMisaddressed) ∧
      ∀ field value reason, run.result.1 = .error (.invalidAddress field value reason) →
        p.recipient = some value ∧ value ≠ "" ∧ ¬ ∃ digits, Spells value digits := by
  refine ⟨fun _ _ => Transfer.recipientHash_eq_ok_iff, fun _ => Transfer.exists_recipientHash_iff,
    fun _ _ _ _ hs hs' => Transfer.recipientHash_eq_iff hs hs',
    fun _ hzeros => Transfer.recipientHash_ofHash hzeros, ?_⟩
  intro σ h order r cache name amount p now s survey run
  have hsurvey : Work.Ends (r.routes name amount) cache survey.events survey.result.1
      survey.result.2 := Flow.ends_run h order _ now s
  have hrun : Work.Ends (r.autoBridge p) cache run.events run.result.1 run.result.2 :=
    Flow.ends_run h order _ now s
  refine ⟨Transfer.recipientHash_checksummed _, ?_, ?_, ?_, ?_⟩
  · intro e he signer contract param native hreq
    rcases surveyed_of_ends hsurvey with ⟨-, hnil, -⟩ | ⟨_, _, -, -, hs⟩
    · rw [hnil] at he
      cases he
    · exact hs.recipient_eq he hreq
  · intro e he hbad
    rcases surveyed_of_ends hsurvey with ⟨-, -, hy, -⟩ | ⟨_, _, -, hy, -⟩
    · cases he.symm.trans hy
      cases hbad
    · cases he.symm.trans hy
  · intro found hfound x hx
    obtain ⟨_, -, hs⟩ := surveyed_of_ends_ok (hfound ▸ hsurvey)
    exact hs.not_isMisaddressed hx
  · intro field value reason hresult
    rw [hresult] at hrun
    exact recipientError?_eq_some (recipientError?_of_ends_autoBridge hrun ⟨field, value, reason⟩)

end Router

end TokenBridge
