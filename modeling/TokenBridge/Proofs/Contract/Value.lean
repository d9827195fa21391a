import TokenBridge.Contract.Value

/-!
# Values of another form

A value that does not stand for an amount or a fee is told as such, whatever its
form and however deep the fault.
-/

namespace TokenBridge.Contract

variable {v : Value} {e : BridgeError}

theorem Value.toAmount_eq_error {what : String} (h : v.toAmount what = .error e) :
    ∃ detail, e = .decode what detail := by
  fun_induction Value.toAmount what v with
  | case1 => cases h
  | case2 _ ih => exact ih h
  | case3 =>
    cases h
    exact ⟨_, rfl⟩

theorem MessagingFee.ofValue_eq_error (h : ofValue v = .error e) :
    ∃ detail, e = .decode what detail := by
  fun_induction ofValue v with
  | case1 | case3 | case9 => cases h
  | case2 _ ih => exact ih h
  | case4 _ _ _ _ ha | case5 _ _ _ _ _ ha | case8 _ _ _ _ ha =>
    cases h
    exact Value.toAmount_eq_error ha
  | case6 | case7 | case11 =>
    cases h
    exact ⟨_, rfl⟩
  | case10 _ _ _ _ _ b =>
    cases hb : b.toAmount what with
    | ok n =>
      rw [hb] at h
      cases h
    | error e' =>
      rw [hb] at h
      cases h
      exact Value.toAmount_eq_error hb

end TokenBridge.Contract
