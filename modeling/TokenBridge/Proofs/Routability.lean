import TokenBridge.Proofs.Spelling

/-!
# Where a client can send

A client sends to the chains of the registry other than its own, under any
spelling of their names (`Reaches`). That a destination is supported, that it is
listed and that a payment can be routed to it all say just this. So a client and
the payments on it accept the same transfers, and a payment that passes its
check is not refused for its chains later (`routability_agrees`).
-/

namespace TokenBridge

open Bridge (Client)
open Program (Ends)
open Transfer (QuoteParams SendParams)

/-- A failure that tells of the chains of a transfer: they are one, or one is unknown. -/
inductive BridgeError.IsUnroutable : BridgeError → Prop where
  | sameChain : IsUnroutable .sameChain
  | unsupportedChain (chain supported : String) : IsUnroutable (.unsupportedChain chain supported)

namespace Bridge.Client

variable {c : Client} {name : String}

/-- The name is a spelling of that of another chain. -/
def Reaches (c : Client) (name : String) : Prop :=
  ∃ chain : Chain, chain ≠ c.chain ∧ Text.sameText chain.name name = true

/-! ## Names that are reached -/

theorem reaches_iff : c.Reaches name ↔
    Text.sameText c.chain.name name = false ∧ Chain.isSupported name = true := by
  constructor
  · rintro ⟨chain, hother, hname⟩
    refine ⟨Bool.eq_false_iff.2 fun hown => hother ?_, ?_⟩
    · rw [Text.sameText_comm] at hown
      exact Chain.sameText_name_iff.1 (Text.sameText_trans hname hown)
    · rw [Text.sameText_comm] at hname
      exact Chain.isSupported_of_sameText hname
  · rintro ⟨hown, hname⟩
    obtain ⟨chain, hchain⟩ := Option.isSome_iff_exists.1 hname
    have hsame := Chain.sameText_of_lookup hchain
    refine ⟨chain, ?_, hsame⟩
    rintro rfl
    rw [hsame] at hown
    cases hown

theorem supportsDestination_iff : c.supportsDestination name = true ↔ c.Reaches name := by
  rw [reaches_iff, supportsDestination, Bool.and_eq_true, Bool.not_eq_true', Text.sameText_comm]

theorem canRoute_iff : Payment.canRoute c.chain.name name = true ↔ c.Reaches name := by
  have hown : Chain.isSupported c.chain.name = true :=
    Chain.isSupported_of_sameText (Text.sameText_refl _)
  rw [reaches_iff, Payment.canRoute, hown, Bool.and_true, Bool.and_eq_true, Bool.not_eq_true']

theorem mem_destinations_iff :
    name ∈ c.destinations ↔ ∃ chain : Chain, chain ≠ c.chain ∧ chain.name = name := by
  simp only [destinations, Chain.names, List.mem_filter, List.mem_mergeSort, List.mem_map,
    bne_iff_ne]
  constructor
  · rintro ⟨⟨chain, -, rfl⟩, hother⟩
    exact ⟨chain, fun h => hother (congrArg Chain.name h), rfl⟩
  · rintro ⟨chain, hother, rfl⟩
    exact ⟨⟨chain, chain.mem_all, rfl⟩, fun h => hother (Chain.name_injective h)⟩

theorem exists_mem_destinations_iff :
    (∃ listed ∈ c.destinations, Text.sameText listed name = true) ↔ c.Reaches name := by
  simp only [mem_destinations_iff]
  constructor
  · rintro ⟨_, ⟨chain, hother, rfl⟩, hname⟩
    exact ⟨chain, hother, hname⟩
  · rintro ⟨chain, hother, hname⟩
    exact ⟨chain.name, ⟨chain, hother, rfl⟩, hname⟩

/-! ## Transfers that can be made -/

/-- A client makes the transfers of some amount from its own chain to those that it reaches. -/
theorem exists_validate_eq_ok_iff {p : QuoteParams} :
    (∃ destination, c.validate p = .ok destination) ↔
      Text.sameText p.source c.chain.name = true ∧ c.Reaches p.destination ∧ p.amount ≠ 0 := by
  have hother (hown : Text.sameText p.source c.chain.name = true) :
      Text.sameText p.source p.destination = Text.sameText c.chain.name p.destination :=
    Text.sameText_congr hown (Text.sameText_refl _)
  constructor
  · rintro ⟨destination, h⟩
    obtain ⟨hown, hd, hdiffer, hamount⟩ := validate_eq_ok h
    refine ⟨hown, reaches_iff.2 ⟨hother hown ▸ hdiffer, ?_⟩, hamount⟩
    rw [Chain.isSupported, hd]
    rfl
  · rintro ⟨hown, hreach, hamount⟩
    obtain ⟨hdiffer, hsupported⟩ := reaches_iff.1 hreach
    obtain ⟨destination, hd⟩ := Option.isSome_iff_exists.1 hsupported
    refine ⟨destination, ?_⟩
    simp only [validate, hown, hd, hother hown, hdiffer, if_neg hamount]
    rfl

theorem not_isUnroutable_of_ends_send {t : SendParams} {destination : Chain} {e : BridgeError}
    {log : List (Event Signer.interface)} (hv : c.validate t.quote = .ok destination)
    (h : Ends (c.send t).run log (.error e)) : ¬ e.IsUnroutable := by
  cases hp : c.plan t.quote t.slippage t.gasLimit with
  | error err =>
    obtain ⟨-, ⟨⟩⟩ := ends_send_of_plan_eq_error hp h
    rw [plan, hv] at hp
    have hrecipient := Transfer.sendParam_eq_error.1 (eq_error_of_map hp)
    obtain ⟨_, rfl⟩ := Transfer.recipientHash_eq_error hrecipient
    rintro ⟨⟩
  | ok planned =>
    obtain ⟨_, -, hsends⟩ := sends_of_ends hp h
    intro he
    refine hsends.not_isRefusal (.inl ?_)
    cases he <;> rfl

end Bridge.Client

/-! ## Payments -/

namespace Payment

variable {c : Client} {p : Params}

theorem validate_eq_ok_iff :
    validate c p = .ok () ↔ ∃ destination, c.validate p.transfer = .ok destination := by
  constructor
  · fun_cases validate c p with
    | case1 | case2 | case3 =>
      intro h
      cases h
    | case4 hown hroute hamount =>
      intro _
      simp only [Bool.not_eq_true', Bool.not_eq_false] at hown hroute
      rw [canRoute_congr hown (Text.sameText_refl _)] at hroute
      exact Client.exists_validate_eq_ok_iff.2 ⟨hown, Client.canRoute_iff.1 hroute, hamount⟩
  · rintro ⟨destination, h⟩
    exact validate_of_client h

theorem not_isUnroutable_of_ends_pay {e : BridgeError} {log : List (Event Signer.interface)}
    (h : Ends (pay c p).run log (.error e)) : ¬ e.IsUnroutable := by
  rcases ends_pay h with ⟨err, hv, -, ⟨⟩⟩ | ⟨z, hv, hsend, hz⟩
  · revert hv
    fun_cases validate c p with
    | case1 | case2 | case3 =>
      rintro ⟨⟩ ⟨⟩
    | case4 =>
      intro h
      cases h
  · obtain ⟨destination, hclient⟩ := validate_eq_ok_iff.1 hv
    obtain rfl := Bridge.eq_error_of_map hz.symm
    exact Client.not_isUnroutable_of_ends_send
      (t := { quote := p.transfer, slippage := Slippage.effective p.slippage }) hclient hsend

end Payment

/-! ## The whole -/

/-- A transfer passes the check of a client exactly if it is of some amount, from the client's chain
and to a supported destination. Those are the listed ones under any spelling, and those to which a
payment from the client's chain can be routed. A payment passes its check exactly if the transfer
behind it passes the client's, so no payment fails for its chains, whoever answers for the
signer. -/
theorem routability_agrees (c : Client) :
    (∀ p : QuoteParams, (∃ destination, c.validate p = .ok destination) ↔
      Text.sameText p.source c.chain.name = true ∧ c.supportsDestination p.destination = true ∧
        p.amount ≠ 0) ∧
    (∀ name, c.supportsDestination name = true ↔
      ∃ listed ∈ c.destinations, Text.sameText listed name = true) ∧
    (∀ name, c.supportsDestination name = true ↔ Payment.canRoute c.chain.name name = true) ∧
    (∀ name, c.supportsDestination name = true ↔
      ∃ chain : Chain, chain ≠ c.chain ∧ Text.sameText chain.name name = true) ∧
    (∀ p : Payment.Params, Payment.validate c p = .ok () ↔
      ∃ destination, c.validate p.transfer = .ok destination) ∧
    ∀ (p : Payment.Params) {σ : Type} (signer : Handler Signer.interface σ) (now : Nat) (s : σ)
      (e : BridgeError), (Program.run signer (Payment.pay c p).run now s).result = .error e →
        ¬ e.IsUnroutable := by
  refine ⟨fun p => ?_, fun name => ?_, fun name => ?_, fun name => ?_,
    fun p => Payment.validate_eq_ok_iff, fun p σ signer now s e he => ?_⟩
  · rw [Client.supportsDestination_iff]
    exact Client.exists_validate_eq_ok_iff
  · rw [Client.supportsDestination_iff, Client.exists_mem_destinations_iff]
  · rw [Client.supportsDestination_iff, Client.canRoute_iff]
  · exact Client.supportsDestination_iff
  · have hends := Program.ends_run signer (Payment.pay c p).run now s
    rw [he] at hends
    exact Payment.not_isUnroutable_of_ends_pay hends

end TokenBridge
