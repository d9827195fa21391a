import TokenBridge.Proofs.Agreement
import TokenBridge.Proofs.Program.Matched
import TokenBridge.Proofs.Text.Spelling

/-!
# Names in other letters

A chain may be named in any case of ASCII letters. What a client plans for a
transfer is the same under every spelling, and a refusal differs only in the
names that it repeats (`Retold`). So are the programs of a client: they ask the
same, and a quote, a transfer or a payment has the names of the registry in it
(`Registered`), however its chains were spelled.
-/

namespace TokenBridge

open Bridge (Client)
open Program (Ends)
open Transfer (QuoteParams SendParams)

/-! ## Names -/

namespace Text

variable {s s' t t' : String}

theorem foldCase_eq_of_sameText (h : sameText s t = true) : foldCase s = foldCase t :=
  congrArg String.ofList (sameText_iff.1 h)

theorem sameText_congr (hs : sameText s s' = true) (ht : sameText t t' = true) :
    sameText s t = sameText s' t' := by
  rw [sameText, sameText, sameText_iff.1 hs, sameText_iff.1 ht]

theorem isEmpty_eq_of_sameText (h : sameText s t = true) : s.isEmpty = t.isEmpty := by
  have hnil : s.toList = [] ↔ t.toList = [] := by
    rw [← List.map_eq_nil_iff, sameText_iff.1 h, List.map_eq_nil_iff]
  rw [String.toList_eq_nil_iff, String.toList_eq_nil_iff] at hnil
  rw [Bool.eq_iff_iff, String.isEmpty_iff, String.isEmpty_iff, hnil]

end Text

namespace Chain

variable {s t : String} {c : Chain}

theorem lookup_eq_of_sameText (h : Text.sameText s t = true) : lookup s = lookup t := by
  unfold lookup
  congr 1
  exact funext fun c => Text.sameText_congr (Text.sameText_refl _) h

theorem lookup_of_sameText_name (h : Text.sameText s c.name = true) : lookup s = some c :=
  (lookup_eq_of_sameText h).trans (lookup_name c)

end Chain

/-- The ends of a transfer go by their names in the registry: they are the chains that the
destination, and the source where it is given, stand for. -/
structure Registered (source : Option String) (destination : String) (leg : String × String) :
    Prop where
  source : ∃ chain : Chain, chain.name = leg.1 ∧ ∀ s ∈ source, Chain.lookup s = some chain
  destination : ∃ chain : Chain, chain.name = leg.2 ∧ Chain.lookup destination = some chain

/-! ## Failures -/

namespace BridgeError

/-- The failure with the names that it repeats from its caller in lower case. -/
def folded : BridgeError → BridgeError
  | unsupportedChain chain supported => unsupportedChain (Text.foldCase chain) supported
  | sourceChainMismatch expected got => sourceChainMismatch expected (Text.foldCase got)
  | cannotRoute source destination supported =>
    cannotRoute (Text.foldCase source) (Text.foldCase destination) supported
  | noRoute amount destination => noRoute amount (Text.foldCase destination)
  | e => e

end BridgeError

/-- Two outcomes with one value, or with failures that differ in the repeated names at most. -/
inductive Retold {α : Type} : Except BridgeError α → Except BridgeError α → Prop where
  | ok (a : α) : Retold (.ok a) (.ok a)
  | error {e e' : BridgeError} : e.folded = e'.folded → Retold (.error e) (.error e')

namespace Retold

variable {α : Type} {s s' d d' : String}

theorem refl (x : Except BridgeError α) : Retold x x := by
  cases x with
  | ok a => exact .ok a
  | error e => exact .error rfl

theorem unsupported (h : Text.sameText s s' = true) :
    Retold (α := α) (.error (.unsupported s)) (.error (.unsupported s')) :=
  .error (congrArg (BridgeError.unsupportedChain · _) (Text.foldCase_eq_of_sameText h))

theorem mismatch (expected : String) (h : Text.sameText s s' = true) :
    Retold (α := α) (.error (.sourceChainMismatch expected s))
      (.error (.sourceChainMismatch expected s')) :=
  .error (congrArg (BridgeError.sourceChainMismatch _ ·) (Text.foldCase_eq_of_sameText h))

theorem cannotRoute (supported : String) (hs : Text.sameText s s' = true)
    (hd : Text.sameText d d' = true) :
    Retold (α := α) (.error (.cannotRoute s d supported))
      (.error (.cannotRoute s' d' supported)) :=
  .error (congrArg₂ (BridgeError.cannotRoute · · _) (Text.foldCase_eq_of_sameText hs)
    (Text.foldCase_eq_of_sameText hd))

theorem noRoute (amount : Amount) (h : Text.sameText d d' = true) :
    Retold (α := α) (.error (.noRoute amount d)) (.error (.noRoute amount d')) :=
  .error (congrArg (BridgeError.noRoute _ ·) (Text.foldCase_eq_of_sameText h))

end Retold

theorem Attempt.matched_bind {I : Interface} {α β : Type} {p q : Attempt I BridgeError α}
    {f g : α → Attempt I BridgeError β} (hp : p.run.Matched Retold q.run)
    (hf : ∀ a, (f a).run.Matched Retold (g a).run) :
    (p >>= f).run.Matched Retold (q >>= g).run := by
  refine Program.Matched.bind hp fun x y h => ?_
  cases h with
  | ok a => exact hf a
  | error he => exact .done (.error he)

theorem Attempt.matched_ofExcept_bind {I : Interface} {α β : Type} {x y : Except BridgeError α}
    (h : Retold x y) (f : α → Attempt I BridgeError β) :
    (ofExcept x >>= f).run.Matched Retold (ofExcept y >>= f).run :=
  matched_bind (.done h) fun _ => .refl Retold.refl _

/-! ## Clients -/

section Spelled

variable {source source' destination destination' : String}

namespace Bridge.Client

theorem validate_retold (hs : Text.sameText source source' = true)
    (hd : Text.sameText destination destination' = true) (c : Client) (p : QuoteParams) :
    Retold (c.validate { p with source, destination })
      (c.validate { p with source := source', destination := destination' }) := by
  simp only [validate, Text.sameText_congr hs (Text.sameText_refl c.chain.name),
    Text.sameText_congr hs hd, Chain.lookup_eq_of_sameText hd]
  split
  · exact .mismatch _ hs
  · split
    · exact .unsupported hd
    · exact .refl _

theorem plan_retold (hs : Text.sameText source source' = true)
    (hd : Text.sameText destination destination' = true) (c : Client) (p : QuoteParams)
    (slippage : Number.Binary64) (gasLimit : Option (BitVec 128)) :
    Retold (c.plan { p with source, destination } slippage gasLimit)
      (c.plan { p with source := source', destination := destination' } slippage gasLimit) := by
  have hvalidate := validate_retold hs hd c p
  unfold plan
  generalize c.validate { p with source, destination } = x at hvalidate ⊢
  generalize c.validate { p with source := source', destination := destination' } = y at hvalidate ⊢
  cases hvalidate with
  | ok chain => exact .refl _
  | error he => exact .error he

theorem quoteWith_matched (hs : Text.sameText source source' = true)
    (hd : Text.sameText destination destination' = true) (c : Client) (p : QuoteParams)
    (slippage : Number.Binary64) (gasLimit : Option (BitVec 128)) :
    (c.quoteWith { p with source, destination } slippage gasLimit).run.Matched Retold
      (c.quoteWith { p with source := source', destination := destination' } slippage
        gasLimit).run :=
  Attempt.matched_ofExcept_bind (plan_retold hs hd c p slippage gasLimit) _

theorem send_matched (hs : Text.sameText source source' = true)
    (hd : Text.sameText destination destination' = true) (c : Client) (t : SendParams) :
    (c.send { t with quote := { t.quote with source, destination } }).run.Matched Retold
      (c.send { t with
        quote := { t.quote with source := source', destination := destination' } }).run :=
  Attempt.matched_ofExcept_bind (plan_retold hs hd c t.quote _ t.gasLimit) _

theorem registered_of_plan {c : Client} {p : QuoteParams} {slippage : Number.Binary64}
    {gasLimit : Option (BitVec 128)} {chain : Chain} {param : Contract.SendParam}
    (h : c.plan p slippage gasLimit = .ok (chain, param)) :
    Registered (some p.source) p.destination (c.chain.name, chain.name) := by
  unfold plan at h
  split at h
  · cases h
  next destination hv =>
    obtain ⟨_, -, heq⟩ := eq_ok_of_map h
    cases heq
    obtain ⟨hown, hd, -, -⟩ := validate_eq_ok hv
    refine ⟨⟨c.chain, rfl, ?_⟩, ⟨chain, rfl, hd⟩⟩
    rintro s ⟨⟩
    exact Chain.lookup_of_sameText_name hown

theorem registered_of_ends_quoteWith {c : Client} {p : QuoteParams} {slippage : Number.Binary64}
    {gasLimit : Option (BitVec 128)} {log : List (Event Signer.interface)} {q : Transfer.Quote}
    (h : Ends (c.quoteWith p slippage gasLimit).run log (.ok q)) :
    Registered (some p.source) p.destination (q.source, q.destination) := by
  cases hp : c.plan p slippage gasLimit with
  | error e => cases (ends_quoteWith_of_plan_eq_error hp h).2
  | ok planned =>
    obtain ⟨_, _, _, -, hx⟩ := ends_quoteWith hp h
    rcases hx with ⟨_, -, ⟨⟩⟩ | ⟨_, _, -, ⟨⟩, -, hterms⟩
    have hsource : q.source = c.chain.name := congrArg Transfer.Terms.source hterms
    have hdestination : q.destination = planned.1.name := congrArg Transfer.Terms.destination hterms
    rw [hsource, hdestination]
    exact registered_of_plan hp

theorem registered_of_ends_send {c : Client} {t : SendParams}
    {log : List (Event Signer.interface)} {x : Transfer.Execution}
    (h : Ends (c.send t).run log (.ok x)) :
    Registered (some t.quote.source) t.quote.destination (x.source, x.destination) := by
  cases hp : c.plan t.quote t.slippage t.gasLimit with
  | error e => cases (ends_send_of_plan_eq_error hp h).2
  | ok planned =>
    obtain ⟨-, -, hsource, hdestination, -⟩ := execution_of_ends hp h
    rw [hsource, hdestination]
    exact registered_of_plan hp

end Bridge.Client

/-! ## Payments -/

namespace Payment

theorem canRoute_congr (hs : Text.sameText source source' = true)
    (hd : Text.sameText destination destination' = true) :
    canRoute source destination = canRoute source' destination' := by
  rw [canRoute, canRoute, Chain.isSupported, Chain.isSupported, Text.sameText_congr hs hd,
    Chain.lookup_eq_of_sameText hs, Chain.lookup_eq_of_sameText hd]
  rfl

theorem validate_retold (hs : Text.sameText source source' = true)
    (hd : Text.sameText destination destination' = true) (c : Client) (p : Params) :
    Retold (validate c { p with source, destination })
      (validate c { p with source := source', destination := destination' }) := by
  simp only [validate, Text.sameText_congr hs (Text.sameText_refl c.chain.name),
    canRoute_congr hs hd]
  split
  · exact .mismatch _ hs
  · split
    · exact .cannotRoute _ hs hd
    · exact .refl _

theorem pay_matched (hs : Text.sameText source source' = true)
    (hd : Text.sameText destination destination' = true) (c : Client) (p : Params) :
    (pay c { p with source, destination }).run.Matched Retold
      (pay c { p with source := source', destination := destination' }).run := by
  refine Attempt.matched_bind (.done (validate_retold hs hd c p)) fun _ => ?_
  refine Attempt.matched_bind ?_ fun _ => .refl Retold.refl _
  exact Client.send_matched hs hd c
    { quote := p.transfer, slippage := Slippage.effective p.slippage }

theorem estimate_matched (hs : Text.sameText source source' = true)
    (hd : Text.sameText destination destination' = true) (c : Client) (p : Params) :
    (estimate c { p with source, destination }).run.Matched Retold
      (estimate c { p with source := source', destination := destination' }).run :=
  Client.quoteWith_matched hs hd c p.transfer _ none

theorem registered_of_ends_pay {c : Client} {p : Params} {log : List (Event Signer.interface)}
    {x : Result} (h : Ends (pay c p).run log (.ok x)) :
    Registered (some p.source) p.destination (x.source, x.destination) := by
  rcases ends_pay h with ⟨_, -, -, ⟨⟩⟩ | ⟨z, -, hsend, hz⟩
  obtain ⟨execution, rfl, rfl⟩ := Bridge.eq_ok_of_map hz.symm
  exact Client.registered_of_ends_send hsend

end Payment

end Spelled

end TokenBridge
