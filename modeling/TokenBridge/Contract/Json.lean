import TokenBridge.Contract.Value
import TokenBridge.Json.Member
import TokenBridge.Word.Json

/-!
# Contract calls in JSON

A call is an object with its method and its arguments by name; amounts are
decimal. A value is an object with one member, named for its kind.
-/

namespace TokenBridge.Contract

/-! ## Calls -/

def MessagingFee.toJson (f : MessagingFee) : Json :=
  .arr [f.native.toDecimalJson, f.network.toDecimalJson]

def MessagingFee.fromJson? : Json → Option MessagingFee
  | .arr [native, network] => do
    return ⟨← Amount.fromDecimalJson? native, ← Amount.fromDecimalJson? network⟩
  | _ => none

def SendParam.toJson (p : SendParam) : Json :=
  .obj [("dst_eid", .word p.endpoint), ("to", p.recipient.toJson),
    ("amount", p.amount.toDecimalJson), ("min_amount", p.minAmount.toDecimalJson),
    ("extra_options", p.extraOptions.toJson), ("compose_msg", p.composeMessage.toJson),
    ("oft_cmd", p.command.toJson)]

def SendParam.fromJson? (v : Json) : Option SendParam := do
  return {
    endpoint := ← v.need? "dst_eid" (Json.word? 32)
    recipient := ← v.need? "to" Hash.fromJson?
    amount := ← v.need? "amount" Amount.fromDecimalJson?
    minAmount := ← v.need? "min_amount" Amount.fromDecimalJson?
    extraOptions := ← v.default? "extra_options" [] Bytes.fromJson?
    composeMessage := ← v.default? "compose_msg" [] Bytes.fromJson?
    command := ← v.default? "oft_cmd" [] Bytes.fromJson? }

def Call.argumentMembers : Call → List (String × Json)
  | quoteSend p pay => [("send_param", p.toJson), ("pay_in_lz_token", .bool pay)]
  | send p fee refund =>
    [("send_param", p.toJson), ("fee", fee.toJson), ("refund", refund.toJson)]
  | allowance owner spender => [("owner", owner.toJson), ("spender", spender.toJson)]
  | approve spender amount => [("spender", spender.toJson), ("amount", amount.toDecimalJson)]
  | balanceOf account => [("account", account.toJson)]

def Call.toJson (c : Call) : Json := .obj (("method", .str c.method) :: c.argumentMembers)

def Call.fromJson? (v : Json) : Option Call := do
  match ← v.text? "method" with
  | "quoteSend" =>
    return quoteSend (← v.need? "send_param" SendParam.fromJson?)
      (← v.flag? "pay_in_lz_token" false)
  | "send" =>
    return send (← v.need? "send_param" SendParam.fromJson?)
      (← v.need? "fee" MessagingFee.fromJson?) (← v.need? "refund" Address.fromJson?)
  | "allowance" =>
    return allowance (← v.need? "owner" Address.fromJson?) (← v.need? "spender" Address.fromJson?)
  | "approve" =>
    return approve (← v.need? "spender" Address.fromJson?)
      (← v.need? "amount" Amount.fromDecimalJson?)
  | "balanceOf" => return balanceOf (← v.need? "account" Address.fromJson?)
  | _ => none

/-! ## Values -/

namespace Value

def toJson : Value → Json
  | uint n => .obj [("uint", n.toDecimalJson)]
  | bool b => .obj [("bool", .bool b)]
  | bytes bs => .obj [("bytes", bs.toJson)]
  | fee f => .obj [("fee", f.toJson)]
  | tuple items => .obj [("tuple", .arr (items.attach.map fun ⟨v, _⟩ => toJson v))]
  | map fields => .obj [("map", .obj (fields.attach.map fun ⟨f, _⟩ => (f.1, toJson f.2)))]
  termination_by v => sizeOf v
  decreasing_by
    · have := List.sizeOf_lt_of_mem ‹_ ∈ items›
      simp; omega
    · rename_i h
      have := List.sizeOf_lt_of_mem h
      have : sizeOf f.2 < sizeOf f := by
        cases f; simp only [Prod.mk.sizeOf_spec]; omega
      simp; omega

mutual

def fromJson? : Json → Option Value
  | .obj [(kind, v)] => ofKind? kind v
  | _ => none
  termination_by v => sizeOf v

def ofKind? (kind : String) (v : Json) : Option Value :=
  match kind, v with
  | "uint", v => (Amount.fromDecimalJson? v).map uint
  | "bool", v => v.bool?.map bool
  | "bytes", v => (Bytes.fromJson? v).map bytes
  | "fee", v => (MessagingFee.fromJson? v).map fee
  | "tuple", .arr items =>
    (items.attach.mapM fun (x : { v // v ∈ items }) => fromJson? x.1).map tuple
  | "map", .obj members =>
    (members.attach.mapM fun (x : { m // m ∈ members }) =>
      (fromJson? x.1.2).map (x.1.1, ·)).map map
  | _, _ => none
  termination_by sizeOf v + 1
  decreasing_by
    · have := List.sizeOf_lt_of_mem x.2
      simp; omega
    · have := List.sizeOf_lt_of_mem x.2
      have : sizeOf x.1.2 < sizeOf x.1 := by
        cases x.1; simp only [Prod.mk.sizeOf_spec]; omega
      simp; omega

end

end Value

end TokenBridge.Contract
