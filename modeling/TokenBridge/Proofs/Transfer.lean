import TokenBridge.Proofs.Word.Address
import TokenBridge.Transfer

/-!
# Parameters of transfers

The contract parameter of a transfer carries its amount, the endpoint of its
destination and the hash of its recipient. The text of an address is always a
recipient.
-/

namespace TokenBridge.Transfer

theorem recipientHash_of_read {text : String} {a : Address} (h : Address.read text = .ok a) :
    recipientHash text = .ok a.toHash := by
  rw [recipientHash, h]

theorem recipientHash_checksummed (a : Address) : recipientHash a.checksummed = .ok a.toHash :=
  recipientHash_of_read a.read_checksummed

theorem recipientHash_eq_ok {text : String} {h : Hash} (hr : recipientHash text = .ok h) :
    ∃ a, Address.read text = .ok a ∧ h = a.toHash := by
  unfold recipientHash at hr
  split at hr
  next a ha =>
    cases hr
    exact ⟨a, ha, rfl⟩
  · cases hr

theorem recipientHash_eq_error {text : String} {e : BridgeError}
    (hr : recipientHash text = .error e) :
    ∃ reason, e = .invalidAddress "recipient" text reason := by
  unfold recipientHash at hr
  split at hr
  · cases hr
  · cases hr
    exact ⟨_, rfl⟩

theorem sendParam_eq_ok {destination : Chain} {amount : Amount} {recipient : String}
    {slippage : Number.Binary64} {gasLimit : Option (BitVec 128)} {param : Contract.SendParam}
    (h : sendParam destination amount recipient slippage gasLimit = .ok param) :
    param.amount = amount ∧ param.minAmount = Slippage.minAmount amount slippage ∧
      param.endpoint = destination.endpoint ∧ recipientHash recipient = .ok param.recipient := by
  unfold sendParam at h
  cases hr : recipientHash recipient with
  | error e =>
    rw [hr] at h
    cases h
  | ok hash =>
    rw [hr] at h
    cases h
    exact ⟨rfl, rfl, rfl, rfl⟩

theorem sendParam_eq_error {destination : Chain} {amount : Amount} {recipient : String}
    {slippage : Number.Binary64} {gasLimit : Option (BitVec 128)} {e : BridgeError} :
    sendParam destination amount recipient slippage gasLimit = .error e ↔
      recipientHash recipient = .error e := by
  unfold sendParam
  cases recipientHash recipient with
  | error e' => simp [Except.map]
  | ok hash => simp [Except.map]

end TokenBridge.Transfer
