import TokenBridge.Proofs.Loss

/-!
# The percentage of an automatic transfer

An automatic transfer takes the percentage that is given, or else the configured
one, or else the default. One that is given is passed over if it is not
positive, and only then is an unusable one replaced by the default. So the first
usable of the three is in force, unless positive infinity is given: it is not
passed over, and the default replaces it whatever is configured
(`slippage_eq_firstUsable`, `slippage_infinity`). What is quoted and submitted
depends on the percentage in force alone (`autoBridge_slippage`).
-/

namespace TokenBridge

open Bridge (Cache Carries)
open Number (Binary64)

/-! ## Positive numbers that are not finite -/

namespace Number.Binary64

variable {x : Binary64}

theorem eq_infinity_of_fields (hbiased : x.biased = 2047) (hfraction : x.fraction = 0)
    (hsign : x.negative = false) : x = infinity false := by
  have hlow : 2 * x.bits.toNat < 2 ^ 64 := BitVec.msb_eq_false_iff_two_mul_lt.1 hsign
  have hvalue : x.bits.toNat = 2047 * 2 ^ 52 := by
    unfold biased at hbiased
    unfold fraction at hfraction
    omega
  obtain ⟨bits⟩ := x
  exact congrArg mk (BitVec.eq_of_toNat_eq hvalue)

theorem eq_infinity_of_isPositive (hpositive : x.isPositive = true) (hfinite : x.isFinite = false) :
    x = infinity false := by
  have hbiased : x.biased = 2047 := by simpa [isFinite] using hfinite
  have hnan : (zero false).isNaN = false := by decide +kernel
  have hzero : (zero false).isFinite = true := by decide +kernel
  cases hx : x.isNaN with
  | true => simp [isPositive, lt, hx] at hpositive
  | false =>
    have hsign : x.negative = false := by
      simpa [isPositive, lt, hnan, hzero, hx, hfinite] using hpositive
    have hfraction : x.fraction = 0 := by simpa [isNaN, hbiased] using hx
    exact eq_infinity_of_fields hbiased hfraction hsign

end Number.Binary64

namespace Slippage

theorem eq_infinity_of_not_isUsable {s : Binary64} (hpositive : s.isPositive = true)
    (h : isUsable s = false) : s = .infinity false := by
  refine Binary64.eq_infinity_of_isPositive hpositive ?_
  simpa [isUsable, hpositive] using h

end Slippage

/-! ## The percentage in force -/

namespace Router

variable {r : Router} {given : Option Binary64}

/-- The first of the percentage that is given, the configured one and the default that can be
used. -/
def firstUsable (r : Router) (given : Option Binary64) : Binary64 :=
  (given.filter Slippage.isUsable).getD (Slippage.effective r.settings.slippage)

theorem isUsable_firstUsable (r : Router) (given : Option Binary64) :
    Slippage.isUsable (r.firstUsable given) = true := by
  cases given with
  | none => exact Slippage.isUsable_effective _
  | some s =>
    cases h : Slippage.isUsable s with
    | true => simp [firstUsable, Option.filter, h]
    | false => simpa [firstUsable, Option.filter, h] using Slippage.isUsable_effective _

/-- The first usable percentage is in force, unless infinity is given. -/
theorem slippage_eq_firstUsable (h : given ≠ some (.infinity false)) :
    r.slippage given = r.firstUsable given := by
  cases given with
  | none => rfl
  | some s =>
    cases hpositive : s.isPositive with
    | false => simp [slippage, firstUsable, Option.filter, hpositive, Slippage.isUsable]
    | true =>
      have husable : Slippage.isUsable s = true := by
        rw [← Bool.not_eq_false]
        exact fun hno => h (congrArg some (Slippage.eq_infinity_of_not_isUsable hpositive hno))
      rw [slippage_of_isUsable husable]
      simp [firstUsable, Option.filter, husable]

/-- Infinity is replaced by the default and not by the configured percentage. -/
theorem slippage_infinity (r : Router) :
    r.slippage (some (.infinity false)) = Slippage.default := by
  have hpositive : (Binary64.infinity false).isPositive = true := by decide +kernel
  have hunusable : Slippage.isUsable (.infinity false) = false := by decide +kernel
  simp [slippage, Option.filter, hpositive, Slippage.effective, hunusable]

/-- An automatic transfer depends on the percentage that is in force alone. -/
theorem autoBridge_congr {p : AutoParams} (h : r.slippage given = r.slippage p.slippage) :
    r.autoBridge { p with slippage := given } = r.autoBridge p := by
  unfold autoBridge
  simp only [h]

/-- An automatic transfer is the one with the first usable percentage given outright, unless
infinity is given: then it is the one with the default given outright, whatever is configured.
Whoever answers, what is quoted and submitted after the survey has the amount asked for, and the
least amount of the percentage in force. -/
theorem autoBridge_slippage (r : Router) (p : AutoParams) :
    (p.slippage ≠ some (.infinity false) →
      r.autoBridge p = r.autoBridge { p with slippage := some (r.firstUsable p.slippage) } ∧
      r.slippage p.slippage = r.firstUsable p.slippage) ∧
    (p.slippage = some (.infinity false) →
      r.autoBridge p = r.autoBridge { p with slippage := some Slippage.default } ∧
      r.slippage p.slippage = Slippage.default) ∧
    ∀ {σ : Type} (h : Handler Wallet.interface σ) (order : Arrangement) (cache : Cache) (now : Nat)
      (s : σ), p.amount ≠ 0 →
      let survey :=
        Flow.run h order ((ExceptT.run (r.routes p.destination (some p.amount))).run cache) now s
      let run := Flow.run h order ((ExceptT.run (r.autoBridge p)).run cache) now s
      ∃ l, run.events = survey.events ++ l ∧
        ∀ e ∈ l, ∀ signer q param, e.request = .onSigner signer q → Carries param q →
          param.amount = p.amount ∧
            param.minAmount = Slippage.minAmount p.amount (r.slippage p.slippage) := by
  refine ⟨fun hgiven => ?_, fun hgiven => ?_, fun h order cache now s hamount => ?_⟩
  · have hforce := slippage_eq_firstUsable (r := r) hgiven
    refine ⟨(autoBridge_congr ?_).symm, hforce⟩
    rw [slippage_of_isUsable (r.isUsable_firstUsable _), hforce]
  · have hforce : r.slippage p.slippage = Slippage.default := hgiven ▸ r.slippage_infinity
    refine ⟨(autoBridge_congr ?_).symm, hforce⟩
    rw [slippage_of_isUsable Slippage.isUsable_default, hforce]
  · intro survey run
    have hparts := Work.run_bind h order (r.routes p.destination (some p.amount)) (r.execute p)
      cache now s
    rw [← autoBridge_eq hamount] at hparts
    rcases hparts with ⟨_, -, -, hevents⟩ | ⟨found, l, -, hevents, hends⟩
    · exact ⟨[], hevents.trans (List.append_nil _).symm, fun _ he => absurd he List.not_mem_nil⟩
    · refine ⟨l, hevents, fun e he signer q param hreq => ?_⟩
      exact forall_of_ends_execute
        (Q := fun q => Carries param q → param.amount = p.amount ∧
          param.minAmount = Slippage.minAmount p.amount (r.slippage p.slippage))
        (fun _ _ _ _ hsend => Bridge.carries_of_ends_send hsend) hends e he signer q hreq

/-- Infinity is given where one and a half percent is configured: the transfer is that of half a
percent. -/
theorem autoBridge_infinity :
    let w : Scripted.Wallet :=
      { address := .zero
        chains := [("arbitrum", ⟨5000000, 2000000000000000, false, { fee := 7 }⟩)] }
    let r : Router := ⟨w.toWallet, { Settings.default with slippage := ⟨0x3ff8000000000000⟩ }⟩
    let p : AutoParams :=
      { destination := "unichain", amount := 1000000, slippage := some (.infinity false) }
    let received (p : AutoParams) : Except BridgeError Amount :=
      (Flow.run Scripted.Wallet.handler .asSpawned
        ((ExceptT.run (r.autoBridge p)).run .empty) 0 w).result.1.map (·.execution.received)
    r.firstUsable p.slippage = ⟨0x3ff8000000000000⟩ ∧
      received { p with slippage := some (r.firstUsable p.slippage) } = .ok 985000 ∧
      received p = .ok 995000 := by
  refine ⟨?_, ?_, ?_⟩
  · decide +kernel
  · decide +kernel
  · decide +kernel

end Router

end TokenBridge
