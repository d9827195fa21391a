import TokenBridge.Proofs.Contract.Decoding
import TokenBridge.Proofs.Word.Address

/-!
# Reading calldata

A contract tells a call from its calldata: the selector names the method, the
types that the method declares tell how to decode the arguments, and the
arguments make up the call. `Call.calldata_reads_back` says that this gives back
every call, so that no two calls share their calldata.
-/

namespace TokenBridge.Contract

/-! ## Methods -/

inductive Method where
  | quoteSend
  | send
  | allowance
  | approve
  | balanceOf
  deriving DecidableEq, Repr

namespace Method

def all : List Method := [quoteSend, send, allowance, approve, balanceOf]

def name : Method → String
  | quoteSend => "quoteSend"
  | send => "send"
  | allowance => "allowance"
  | approve => "approve"
  | balanceOf => "balanceOf"

def sendParam : Parameter :=
  .tuple [.scalar .uint32, .scalar .bytes32, .scalar .uint256, .scalar .uint256, .bytes, .bytes,
    .bytes]

def messagingFee : Parameter := .tuple [.scalar .uint256, .scalar .uint256]

/-- The types of the parameters as they are declared. -/
def parameters : Method → List Parameter
  | quoteSend => [sendParam, .scalar .bool]
  | send => [sendParam, messagingFee, .scalar .address]
  | allowance => [.scalar .address, .scalar .address]
  | approve => [.scalar .address, .scalar .uint256]
  | balanceOf => [.scalar .address]

def selector : Method → Bytes
  | quoteSend => [0x3b, 0x6f, 0x74, 0x3b]
  | send => [0xc7, 0xc7, 0xf5, 0xb3]
  | allowance => [0xdd, 0x62, 0xed, 0x3e]
  | approve => [0x09, 0x5e, 0xa7, 0xb3]
  | balanceOf => [0x70, 0xa0, 0x82, 0x31]

end Method

/-! ## Arguments as values -/

namespace Argument

def word? (bits : Nat) : Argument → Option (BitVec bits)
  | fixed w => some (BitVec.ofNat bits w.toNat)
  | _ => none

def flag? (a : Argument) : Option Bool := (a.word? 1).map (· == 1)

def hash? (a : Argument) : Option Hash := (a.word? 256).map Hash.mk

def address? (a : Argument) : Option Address := (a.word? 160).map Address.mk

def bytes? : Argument → Option Bytes
  | bytes bs => some bs
  | _ => none

end Argument

def SendParam.ofArgument? : Argument → Option SendParam
  | .tuple [endpoint, recipient, amount, minAmount, extraOptions, composeMessage, command] => do
    return {
      endpoint := ← endpoint.word? 32
      recipient := ← recipient.hash?
      amount := ← amount.word? 256
      minAmount := ← minAmount.word? 256
      extraOptions := ← extraOptions.bytes?
      composeMessage := ← composeMessage.bytes?
      command := ← command.bytes? }
  | _ => none

def MessagingFee.ofArgument? : Argument → Option MessagingFee
  | .tuple [native, network] => do return ⟨← native.word? 256, ← network.word? 256⟩
  | _ => none

/-- The call of a method with the given arguments. -/
def Method.call? : Method → List Argument → Option Call
  | quoteSend, [param, pay] => do return .quoteSend (← SendParam.ofArgument? param) (← pay.flag?)
  | send, [param, fee, refund] => do
    return .send (← SendParam.ofArgument? param) (← MessagingFee.ofArgument? fee)
      (← refund.address?)
  | allowance, [owner, spender] => do return .allowance (← owner.address?) (← spender.address?)
  | approve, [spender, amount] => do return .approve (← spender.address?) (← amount.word? 256)
  | balanceOf, [account] => do return .balanceOf (← account.address?)
  | _, _ => none

namespace Call

def kind : Call → Method
  | quoteSend .. => .quoteSend
  | send .. => .send
  | allowance .. => .allowance
  | approve .. => .approve
  | balanceOf .. => .balanceOf

/-- The call that calldata stands for. -/
def ofCalldata? (data : Bytes) : Option Call := do
  let m ← Method.all.find? fun m => m.selector == data.take 4
  let body := data.drop 4
  m.call? (← Parameter.readFields? m.parameters body body)

end Call

/-! ## Selectors -/

namespace Method

def signature (m : Method) : String := m.name ++ (Parameter.tuple m.parameters).text

theorem take_hash_signature (m : Method) :
    (Crypto.Keccak.hash (Bytes.ofText m.signature)).take 4 = m.selector := by
  cases m <;> decide +kernel

theorem length_selector (m : Method) : m.selector.length = 4 := by cases m <;> rfl

theorem find?_selector (m : Method) : all.find? (fun k => k.selector == m.selector) = some m := by
  cases m <;> decide

end Method

namespace Call

theorem signature_eq (c : Call) : c.signature = c.kind.signature := by
  cases c <;> rfl

theorem selector_eq (c : Call) : c.selector = c.kind.selector := by
  rw [selector, signature_eq, Method.take_hash_signature]

theorem length_selector (c : Call) : c.selector.length = 4 := by
  rw [selector_eq, Method.length_selector]

end Call

/-! ## Arguments of a call -/

theorem toNat_replicate_append (n : Nat) (bs : Bytes) :
    Bytes.toNat (List.replicate n 0 ++ bs) = bs.toNat := by
  induction n with
  | zero => rfl
  | succ n ih => simpa [Bytes.toNat, List.replicate_succ] using ih

namespace Argument

variable {bits : Nat} {v : BitVec bits} {a : Argument} {s : Scalar}

/-- The argument is a word with a number of so many bits. -/
inductive Holds (v : BitVec bits) : Argument → Prop where
  | intro {w : Bytes} (length : w.length = 32) (value : w.toNat = v.toNat) : Holds v (.fixed w)

theorem Holds.fits (h : Holds v a) (hbits : bits ≤ s.bits) : Fits (.scalar s) a := by
  obtain ⟨length, value⟩ := h
  have hlt : v.toNat < 2 ^ s.bits :=
    Nat.lt_of_lt_of_le v.isLt (Nat.pow_le_pow_right (by decide) hbits)
  exact .scalar length (value ▸ hlt)

theorem Holds.word? (h : Holds v a) : a.word? bits = some v := by
  obtain ⟨-, value⟩ := h
  rw [Argument.word?, value, BitVec.ofNat_toNat, BitVec.setWidth_eq]

theorem holds_nat (v : BitVec bits) (h : bits ≤ 256) : Holds v (nat v.toNat) := by
  have hlt : v.toNat < 2 ^ 256 := Nat.lt_of_lt_of_le v.isLt (Nat.pow_le_pow_right (by decide) h)
  exact ⟨Bytes.length_ofNat 32 _, Parameter.toNat_ofNat_word hlt⟩

theorem holds_amount (x : Amount) : Holds x (amount x) := holds_nat x (Nat.le_refl _)

theorem holds_hash (x : Hash) : Holds x.value (hash x) := holds_nat x.value (Nat.le_refl _)

theorem holds_bool (b : Bool) : Holds (BitVec.ofBool b) (bool b) := by
  cases b <;> exact holds_nat _ (by decide)

theorem holds_address (x : Address) : Holds x.value (address x) := by
  constructor
  · rw [Bytes.padLeft, List.length_append, List.length_replicate, x.length_bytes]
  · rw [Bytes.padLeft, toNat_replicate_append, Address.bytes, Bytes.toNat_ofNat]
    exact Nat.mod_eq_of_lt x.value.isLt

theorem flag?_bool (b : Bool) : (bool b).flag? = some b := by
  rw [flag?, (holds_bool b).word?]
  cases b <;> rfl

theorem hash?_hash (x : Hash) : (hash x).hash? = some x := by
  rw [hash?, (holds_hash x).word?, Option.map_some]

theorem address?_address (x : Address) : (address x).address? = some x := by
  rw [address?, (holds_address x).word?, Option.map_some]

end Argument

open Argument (Fits FitAll)

theorem SendParam.fits_argument (p : SendParam) : Fits Method.sendParam p.argument :=
  .tuple <| .cons ((Argument.holds_nat p.endpoint (by decide)).fits (by decide)) <|
    .cons ((Argument.holds_hash _).fits (by decide)) <|
    .cons ((Argument.holds_amount _).fits (by decide)) <|
    .cons ((Argument.holds_amount _).fits (by decide)) <|
    .cons (.bytes _) <| .cons (.bytes _) <| .cons (.bytes _) .nil

theorem SendParam.isDynamic_argument (p : SendParam) : p.argument.isDynamic = true := rfl

theorem SendParam.ofArgument?_argument (p : SendParam) : ofArgument? p.argument = some p := by
  simp [ofArgument?, argument, (Argument.holds_nat p.endpoint (by decide)).word?,
    Argument.hash?_hash, (Argument.holds_amount _).word?, Argument.bytes?]

theorem MessagingFee.fits_argument (f : MessagingFee) : Fits Method.messagingFee f.argument :=
  .tuple <| .cons ((Argument.holds_amount _).fits (by decide)) <|
    .cons ((Argument.holds_amount _).fits (by decide)) .nil

theorem MessagingFee.ofArgument?_argument (f : MessagingFee) : ofArgument? f.argument = some f := by
  simp [ofArgument?, argument, (Argument.holds_amount _).word?]

namespace Call

theorem fitAll_arguments (c : Call) : FitAll c.kind.parameters c.arguments := by
  have haddress (x : Address) : Fits (.scalar .address) (.address x) :=
    (Argument.holds_address x).fits (by decide)
  cases c with
  | quoteSend p pay =>
    exact .cons p.fits_argument <| .cons ((Argument.holds_bool pay).fits (by decide)) .nil
  | send p fee refund =>
    exact .cons p.fits_argument <| .cons fee.fits_argument <| .cons (haddress refund) .nil
  | allowance owner spender => exact .cons (haddress owner) <| .cons (haddress spender) .nil
  | approve spender amount =>
    exact .cons (haddress spender) <|
      .cons ((Argument.holds_amount amount).fits (by decide)) .nil
  | balanceOf account => exact .cons (haddress account) .nil

theorem call?_arguments (c : Call) : c.kind.call? c.arguments = some c := by
  cases c <;>
    simp [kind, arguments, Method.call?, SendParam.ofArgument?_argument,
      MessagingFee.ofArgument?_argument, Argument.flag?_bool, Argument.address?_address,
      (Argument.holds_amount _).word?]

/-! ## Size -/

def byteStrings : Call → List Bytes
  | quoteSend p _ | send p _ _ => [p.extraOptions, p.composeMessage, p.command]
  | _ => []

theorem length_padRight_lt (bs : Bytes) : (Bytes.padRight 32 bs).length < bs.length + 32 := by
  rw [Bytes.padRight, List.length_append, List.length_replicate]
  omega

theorem length_encode_sendParam_lt {p : SendParam}
    (h : ∀ bs ∈ [p.extraOptions, p.composeMessage, p.command], bs.length < 2 ^ 64) :
    p.argument.encode.length < 2 ^ 67 := by
  have hoptions := length_padRight_lt p.extraOptions
  have hcompose := length_padRight_lt p.composeMessage
  have hcommand := length_padRight_lt p.command
  simp only [List.forall_mem_cons] at h
  simp [SendParam.argument, Argument.encode, Argument.encodeFields, Argument.isDynamic,
    Argument.nat, Argument.hash, Argument.amount, Bytes.length_ofNat, Hash.bytes, Amount.bytes]
  omega

open Argument in
/-- Calldata whose byte strings fit in memory is no longer than a word can count. -/
theorem length_calldata_lt {c : Call} (h : ∀ bs ∈ c.byteStrings, bs.length < 2 ^ 64) :
    c.calldata.length < 2 ^ 256 := by
  rw [calldata, List.length_append, c.length_selector]
  cases c with
  | quoteSend p pay =>
    have hparam := length_encode_sendParam_lt h
    simp [arguments, encode, encodeFields, p.isDynamic_argument, isDynamic, Argument.bool, nat,
      Bytes.length_ofNat]
    omega
  | send p fee refund =>
    have hparam := length_encode_sendParam_lt h
    simp [arguments, encode, encodeFields, p.isDynamic_argument, MessagingFee.argument, isDynamic,
      anyDynamic, amount, Amount.bytes, Bytes.length_ofNat, address, Bytes.padLeft,
      Address.length_bytes]
    omega
  | allowance | approve | balanceOf =>
    simp [arguments, encode, encodeFields, isDynamic, amount, Amount.bytes, Bytes.length_ofNat,
      address, Bytes.padLeft, Address.length_bytes]

/-! ## Reading a call back -/

theorem readFields?_arguments {c : Call} (h : c.calldata.length < 2 ^ 256) :
    Parameter.readFields? c.kind.parameters (Argument.tuple c.arguments).encode
      (Argument.tuple c.arguments).encode = some c.arguments := by
  have hlt : (Argument.tuple c.arguments).encode.length < 2 ^ 256 := by
    rw [calldata, List.length_append] at h
    omega
  simpa using Parameter.readFields?_encode c.fitAll_arguments hlt []

theorem ofCalldata?_calldata {c : Call} (h : c.calldata.length < 2 ^ 256) :
    ofCalldata? c.calldata = some c := by
  rw [ofCalldata?, calldata, List.take_left' c.length_selector,
    List.drop_left' c.length_selector, selector_eq, Method.find?_selector]
  simp [readFields?_arguments h, call?_arguments]

/-- A call is decoded from its calldata: behind the four bytes that choose its method, the types
that the method declares decode to its arguments, and these make up the call. So no other call has
the same calldata. Offsets and lengths are words, hence the bound; byte strings that fit in memory
keep far below it (`length_calldata_lt`). -/
theorem calldata_reads_back {c : Call} (h : c.calldata.length < 2 ^ 256) :
    (∃ body, c.calldata = c.kind.selector ++ body ∧
      c.kind.selector.length = 4 ∧
      c.kind.selector = (Crypto.Keccak.hash (Bytes.ofText c.kind.signature)).take 4 ∧
      Parameter.readFields? c.kind.parameters body body = some c.arguments ∧
      c.kind.call? c.arguments = some c) ∧
    ofCalldata? c.calldata = some c ∧
    ∀ c' : Call, c'.calldata = c.calldata → c' = c := by
  refine ⟨⟨_, ?_, c.kind.length_selector, c.kind.take_hash_signature.symm,
    readFields?_arguments h, c.call?_arguments⟩, ofCalldata?_calldata h, fun c' hc => ?_⟩
  · rw [calldata, selector_eq]
  · have hread := ofCalldata?_calldata (hc ▸ h)
    rw [hc, ofCalldata?_calldata h] at hread
    exact (Option.some.inj hread).symm

/-- A send with three byte strings of different lengths, one of them more than a word. -/
theorem calldata_reads_back_send :
    let c := send
      { endpoint := 30320, recipient := Address.zero.toHash, amount := 1000000, minAmount := 995000,
        extraOptions := executorOptions (some 200000), composeMessage := List.replicate 33 7,
        command := [1] }
      ⟨5, 0⟩ ⟨0x1234⟩
    c.calldata.length < 2 ^ 256 ∧ ofCalldata? c.calldata = some c ∧
      ∀ c' : Call, c'.calldata = c.calldata → c' = c := by
  intro c
  have h : c.calldata.length < 2 ^ 256 := length_calldata_lt (by decide)
  exact ⟨h, (calldata_reads_back h).2⟩

end Call

end TokenBridge.Contract
