import TokenBridge.Payment
import TokenBridge.Proofs.Bridge.Course
import TokenBridge.Proofs.Chain

/-!
# Payments as transfers

A payment is checked before the client checks the transfer behind it. The first
check refuses only what the second would refuse, with an error of its own
(`client_refuses`). So a payment is refused at once or is the transfer, with its
result renamed (`ends_pay`).
-/

namespace TokenBridge

open Bridge (Client)
open Program (Ends)
open Transfer (QuoteParams)

theorem Bridge.Client.validate_eq_ok {c : Client} {p : QuoteParams} {destination : Chain}
    (h : c.validate p = .ok destination) :
    Text.sameText p.source c.chain.name = true ∧ Chain.lookup p.destination = some destination ∧
      Text.sameText p.source p.destination = false ∧ p.amount ≠ 0 := by
  revert h
  fun_cases validate c p with
  | case1 | case2 | case3 | case4 => nofun
  | case5 hown destination hd hother ha =>
    rintro ⟨⟩
    exact ⟨by simpa using hown, hd, by simpa using hother, ha⟩

namespace Payment

variable {c : Client} {p : Params}

theorem isValidation_of_validate {e : BridgeError} (h : validate c p = .error e) :
    e.isValidation = true := by
  revert h
  fun_cases validate c p with
  | case1 | case2 | case3 =>
    rintro ⟨⟩
    rfl
  | case4 => rintro ⟨⟩

theorem validate_of_client {destination : Chain} (h : c.validate p.transfer = .ok destination) :
    validate c p = .ok () := by
  obtain ⟨hown, hd, hother, ha⟩ : Text.sameText p.source c.chain.name = true ∧
      Chain.lookup p.destination = some destination ∧
      Text.sameText p.source p.destination = false ∧ p.amount ≠ 0 := Client.validate_eq_ok h
  have hsource : Chain.isSupported p.source = true := Chain.isSupported_of_sameText hown
  have hdestination : Chain.isSupported p.destination = true := by rw [Chain.isSupported, hd]; rfl
  have hroute : canRoute p.source p.destination = true := by
    rw [canRoute, hother, hsource, hdestination]
    rfl
  simp only [validate, hown, hroute, if_neg ha]
  rfl

theorem client_refuses {e : BridgeError} (h : validate c p = .error e) :
    ∃ e', c.validate p.transfer = .error e' := by
  cases hv : c.validate p.transfer with
  | error e' => exact ⟨e', rfl⟩
  | ok destination => cases (validate_of_client hv).symm.trans h

theorem ends_pay {log : List (Event Signer.interface)} {y : Except BridgeError Result}
    (h : Ends (pay c p).run log y) :
    (∃ e, validate c p = .error e ∧ log = [] ∧ y = .error e) ∨
      ∃ z, validate c p = .ok () ∧
        Ends (c.send { quote := p.transfer, slippage := Slippage.effective p.slippage }).run
          log z ∧ y = z.map .ofExecution := by
  rcases Attempt.ends_bind.1 h with ⟨e, h₁, rfl⟩ | ⟨_, _, l, rfl, h₁, h₂⟩
  · obtain ⟨rfl, hv⟩ := Attempt.ends_ofExcept.1 h₁
    exact .inl ⟨e, hv.symm, rfl, rfl⟩
  obtain ⟨rfl, hv⟩ := Attempt.ends_ofExcept.1 h₁
  rcases Attempt.ends_bind.1 h₂ with ⟨e, h₃, rfl⟩ | ⟨x, l, l', rfl, h₃, h₄⟩
  · exact .inr ⟨_, hv.symm, h₃, rfl⟩
  · obtain ⟨rfl, rfl⟩ := Attempt.ends_pure.1 h₄
    rw [List.append_nil]
    exact .inr ⟨_, hv.symm, h₃, rfl⟩

end Payment

end TokenBridge
