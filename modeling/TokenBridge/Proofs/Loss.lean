import TokenBridge.Proofs.Payment
import TokenBridge.Proofs.Router.AutoBridge
import TokenBridge.Proofs.Slippage

/-!
# What a transfer may lose

Every transfer that is submitted carries the amount that was asked for, and the
least amount to arrive is that amount less at most its share in basis points
(`Tolerates`). The percentage passes through up to three replacements of
unusable values, of which only the first can change it. So the basis points are
the same wherever they are counted, and the bound holds of a client's transfer,
of a payment and of an automatic transfer alike (`submitted_tolerates`).
-/

namespace TokenBridge

open Bridge (Cache Client)
open Program (Ends)
open Slippage (basisPoints wholeBasisPoints)
open Transfer (SendParams)
open Wallet (signed)

/-! ## Parameters -/

namespace Transfer

/-- The parameter carries the amount, and at most its share in basis points may be lost of it. -/
structure Tolerates (amount : Amount) (points : Nat) (param : Contract.SendParam) : Prop where
  carries : param.amount = amount
  whole : points ≤ wholeBasisPoints
  /-- The subtraction has not wrapped. -/
  least : param.minAmount.toNat ≤ amount.toNat
  lost : amount.toNat - param.minAmount.toNat ≤ amount.toNat * points / wholeBasisPoints
  /-- Nothing less may be lost than that share, unless the product wraps. -/
  exact : amount.toNat * points < 2 ^ 256 →
    amount.toNat - param.minAmount.toNat = amount.toNat * points / wholeBasisPoints

theorem tolerates_of_minAmount {amount : Amount} {s : Number.Binary64} {param : Contract.SendParam}
    (ha : param.amount = amount) (hm : param.minAmount = Slippage.minAmount amount s) :
    Tolerates amount (basisPoints s) param := by
  have hloss : amount.toNat - param.minAmount.toNat = Slippage.loss amount s := by
    have hle := Slippage.loss_le_amount amount s
    rw [hm, Slippage.toNat_minAmount]
    omega
  refine ⟨ha, Slippage.basisPoints_le s, ?_, ?_, fun hfits => ?_⟩
  · rw [hm, Slippage.toNat_minAmount]
    exact Nat.sub_le ..
  · rw [hloss]
    exact Slippage.loss_le amount s
  · rw [hloss]
    exact Slippage.loss_eq hfits

/-- A request to a signer: where it submits a transfer, its parameter tolerates that loss. -/
def RequestTolerates (amount : Amount) (points : Nat) (q : Signer.Request) : Prop :=
  ∀ contract param fee refund value, q = .write contract (.send param fee refund) value →
    Tolerates amount points param

end Transfer

open Transfer (RequestTolerates)

/-! ## Programs of clients -/

variable {c : Client}

theorem Bridge.carries_of_ends_send {p : SendParams} {param : Contract.SendParam}
    {log : List (Event Signer.interface)} {y : Except BridgeError Transfer.Execution}
    (h : Ends (c.send p).run log y) :
    ∀ e ∈ log, Carries param e.request → param.amount = p.quote.amount ∧
      param.minAmount = Slippage.minAmount p.quote.amount p.slippage := by
  cases hp : c.plan p.quote p.slippage p.gasLimit with
  | error err =>
    obtain ⟨rfl, -⟩ := ends_send_of_plan_eq_error hp h
    exact fun _ he => absurd he List.not_mem_nil
  | ok planned =>
    obtain ⟨course, rfl, hcourse⟩ := sends_of_ends hp h
    intro e he hcarries
    obtain ⟨x, hx, rfl⟩ := List.mem_map.1 he
    obtain rfl := (hcourse.asks x hx).carries hcarries
    obtain ⟨hamount, hleast, -⟩ := Transfer.sendParam_eq_ok (Client.plan_eq_ok hp)
    exact ⟨hamount, hleast⟩

theorem Bridge.tolerates_of_ends_send {p : SendParams} {log : List (Event Signer.interface)}
    {y : Except BridgeError Transfer.Execution} (h : Ends (c.send p).run log y) :
    ∀ e ∈ log, RequestTolerates p.quote.amount (basisPoints p.slippage) e.request := by
  intro e he contract param fee refund value hreq
  have hcarries : Carries param e.request := hreq ▸ .submission contract fee refund value
  obtain ⟨hamount, hleast⟩ := carries_of_ends_send h e he hcarries
  exact Transfer.tolerates_of_minAmount hamount hleast

/-- A payment has its percentage replaced before the client does so again. -/
theorem Payment.tolerates_of_ends_pay {p : Params} {log : List (Event Signer.interface)}
    {y : Except BridgeError Result} (h : Ends (pay c p).run log y) :
    ∀ e ∈ log, RequestTolerates p.amount (basisPoints p.slippage) e.request := by
  rcases ends_pay h with ⟨_, -, rfl, -⟩ | ⟨_, -, hsend, -⟩
  · exact fun _ he => absurd he List.not_mem_nil
  · rw [← Slippage.basisPoints_effective]
    exact Bridge.tolerates_of_ends_send hsend

/-! ## The router -/

namespace Router

variable {r : Router} {before after : Cache} {log : List (Event Wallet.interface)}

theorem slippage_of_isUsable {s : Number.Binary64} (h : Slippage.isUsable s = true) :
    r.slippage (some s) = s := by
  have hpositive : s.isPositive = true := (Bool.and_eq_true_iff.1 h).2
  simp [slippage, Option.filter, hpositive, Slippage.effective, h]

theorem tolerates_of_ends_routes {name : String} {wanted : Option Amount} {amount : Amount}
    {points : Nat} {y : Except BridgeError (List Route)}
    (h : Work.Ends (r.routes name wanted) before log y after) :
    ∀ e ∈ log, ∀ signer q, e.request = .onSigner signer q → RequestTolerates amount points q := by
  rintro e he signer q hreq contract param fee refund value rfl
  have hsilent := submits_eq_false_of_ends_routes h e he
  rw [hreq] at hsilent
  cases hsilent

theorem tolerates_of_ends_autoBridge {p : AutoParams} {y : Except BridgeError AutoResult}
    (h : Work.Ends (r.autoBridge p) before log y after) :
    ∀ e ∈ log, ∀ signer q, e.request = .onSigner signer q →
      RequestTolerates p.amount (basisPoints (r.slippage p.slippage)) q := by
  by_cases hamount : p.amount = 0
  · rw [autoBridge_of_amount_eq_zero hamount] at h
    obtain ⟨rfl, -⟩ := Work.ends_ofExcept h
    exact fun _ he => absurd he List.not_mem_nil
  rw [autoBridge_eq hamount] at h
  rcases Work.ends_bind h with ⟨_, h₁, -⟩ | ⟨found, mid, l, l', rfl, h₁, h₂⟩
  · exact tolerates_of_ends_routes h₁
  intro e he
  rcases List.mem_append.1 he with he | he
  · exact tolerates_of_ends_routes h₁ e he
  · exact forall_of_ends_execute
      (Q := RequestTolerates p.amount (basisPoints (r.slippage p.slippage)))
      (fun _ _ _ _ hsend => Bridge.tolerates_of_ends_send hsend) h₂ e he

end Router

/-! ## Every entry -/

/-- Whoever answers, a transfer is submitted with the amount asked for and with a least amount that
loses at most the basis points in force: of a client's transfer, of a payment, and of an automatic
transfer. A percentage that can be used is the one in force. -/
theorem submitted_tolerates {σ τ : Type} (signer : Handler Signer.interface σ)
    (wallet : Handler Wallet.interface τ) (order : Arrangement) (c : Client) (r : Router)
    (cache : Cache) (transfer : SendParams) (payment : Payment.Params) (auto : Router.AutoParams)
    (now : Nat) (s : σ) (t : τ) :
    (∀ e ∈ (Program.run signer (c.send transfer).run now s).events,
      RequestTolerates transfer.quote.amount (basisPoints transfer.slippage) e.request) ∧
    (∀ e ∈ (Program.run signer (Payment.pay c payment).run now s).events,
      RequestTolerates payment.amount (basisPoints payment.slippage) e.request) ∧
    (∀ e ∈ (Flow.run wallet order ((ExceptT.run (r.autoBridge auto)).run cache) now t).events,
      ∀ signer q, e.request = .onSigner signer q →
        RequestTolerates auto.amount (basisPoints (r.slippage auto.slippage)) q) ∧
    (∀ s, auto.slippage = some s → Slippage.isUsable s = true → r.slippage auto.slippage = s) :=
  ⟨Bridge.tolerates_of_ends_send (Program.ends_run signer _ now s),
    Payment.tolerates_of_ends_pay (Program.ends_run signer _ now s),
    Router.tolerates_of_ends_autoBridge (Flow.ends_run wallet order _ now t),
    fun _ hgiven husable => hgiven ▸ Router.slippage_of_isUsable husable⟩

end TokenBridge
