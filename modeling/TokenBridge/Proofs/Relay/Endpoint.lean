import TokenBridge.Chain
import TokenBridge.Proofs.Relay.Field
import TokenBridge.Proofs.Relay.Message

/-!
# The endpoint ids of a message

The tolerant reading keeps the low 32 bits of an endpoint id that it has held to
64 bits. So an id of at most 32 bits is taken as it stands, and every id of more
bits for some other one: among them, those that agree with the endpoint of a
chain in their low bits for that endpoint (`endpoint_ofMembers`). The strict
reading accepts no id of more than 32 bits.
-/

namespace TokenBridge.Relay.Message

open Json (IsNumeric Denotes find?)

/-! ## The two ends of a message -/

inductive Side where
  | source
  | destination
  deriving DecidableEq, Repr

namespace Side

def key : Side → String
  | source => "srcEid"
  | destination => "dstEid"

def otherKey : Side → String
  | source => "srcChainId"
  | destination => "dstChainId"

def keys (side : Side) : List String := [side.key, side.otherKey]

def endpoint : Side → Message → BitVec 32
  | source, m => m.sourceEndpoint
  | destination, m => m.destinationEndpoint

end Side

/-! ## Reading an id -/

variable {members : List (String × Json)} {m : Message} {side : Side} {v : Json} {n : Nat}

theorem endpoint_eq (side : Side) (members : List (String × Json)) :
    side.endpoint (ofMembers members) =
      ((wholeField? members side.keys).getD 0).setWidth 32 := by
  cases side <;> rfl

theorem toNat_endpoint (hv : First members IsNumeric side.keys v) (hn : HeldTo v n) :
    (side.endpoint (ofMembers members)).toNat = n % 2 ^ 32 := by
  rw [endpoint_eq, wholeField?_of_first hv, hn.eq, Option.getD_some, BitVec.toNat_setWidth,
    BitVec.toNat_ofNat, Nat.mod_eq_of_lt hn.lt]

theorem toNat_endpoint_of_denotes (hv : First members IsNumeric side.keys v) (hn : Denotes v n) :
    (side.endpoint (ofMembers members)).toNat = min n (2 ^ 64 - 1) % 2 ^ 32 :=
  toNat_endpoint hv (heldTo_of_denotes hn)

/-- No chain has the endpoint whose bits are all set, which stands for whatever exceeds 64 bits. -/
theorem toNat_endpoint_lt (c : Chain) : c.endpoint.toNat < 2 ^ 32 - 1 := by
  cases c <;> decide

theorem first_of_fromJson? (h : fromJson? (.obj members) = some m) :
    First members IsNumeric side.keys (.word (side.endpoint m)) := by
  have hw := fromJson?_obj.1 h
  cases side with
  | source => exact .here hw.sourceEndpoint (.number _)
  | destination => exact .here hw.destinationEndpoint (.number _)

/-- An endpoint id that is a whole number is taken as it stands just if it has at most 32 bits. It
is taken for the endpoint of a chain just where it has at most 64 bits and agrees with that endpoint
in the low 32. Where there is no id, zero is taken. The strict reading accepts an id of at most 32
bits only, and there the two readings agree. -/
theorem endpoint_ofMembers (side : Side) (members : List (String × Json)) :
    (∀ v n, First members IsNumeric side.keys v → Denotes v (n : Nat) →
      (side.endpoint (ofMembers members)).toNat = min n (2 ^ 64 - 1) % 2 ^ 32 ∧
      ((side.endpoint (ofMembers members)).toNat = n ↔ n < 2 ^ 32) ∧
      ∀ c : Chain, side.endpoint (ofMembers members) = c.endpoint ↔
        n < 2 ^ 64 ∧ n % 2 ^ 32 = c.endpoint.toNat) ∧
    ((∀ v, ¬ First members IsNumeric side.keys v) → side.endpoint (ofMembers members) = 0) ∧
    ∀ m, fromJson? (.obj members) = some m →
      side.endpoint (ofMembers members) = side.endpoint m ∧
      ∃ v, First members IsNumeric side.keys v ∧ Denotes v (side.endpoint m).toNat := by
  refine ⟨fun v n hv hn => ?_, fun hno => ?_, fun m hm => ?_⟩
  · have hread := toNat_endpoint_of_denotes hv hn
    refine ⟨hread, ?_, fun c => ?_⟩
    · rw [hread]
      omega
    · have hc := toNat_endpoint_lt c
      rw [← BitVec.toNat_inj, hread]
      omega
  · have hnone : wholeField? members side.keys = none :=
      wholeField?_eq_none.2 fun key hkey v hfind hv =>
        (exists_first ⟨key, hkey, v, hfind, hv⟩).elim hno
    rw [endpoint_eq, hnone]
    rfl
  · have hv : First members IsNumeric side.keys _ := first_of_fromJson? hm
    have hdenotes : Denotes (.word (side.endpoint m)) (side.endpoint m).toNat :=
      Json.denotes_whole _
    refine ⟨BitVec.eq_of_toNat_eq ?_, _, hv, hdenotes⟩
    have hlt := (side.endpoint m).isLt
    rw [toNat_endpoint_of_denotes hv hdenotes]
    omega

/-- An id of 33 bits is taken for the endpoint of Arbitrum. -/
theorem endpoint_of_33_bits :
    let members : List (String × Json) := [("srcEid", .num (.whole 4294997406))]
    First members IsNumeric Side.source.keys (.num (.whole 4294997406)) ∧
      Denotes (.num (.whole 4294997406)) (4294997406 : Nat) ∧ ¬ 4294997406 < 2 ^ 32 ∧
      (ofMembers members).sourceEndpoint = Chain.arbitrum.endpoint ∧
      (ofMembers members).sourceEndpoint.toNat ≠ 4294997406 := by
  intro members
  have hread : (ofMembers members).sourceEndpoint = Chain.arbitrum.endpoint := by decide +kernel
  refine ⟨.here rfl (.number _), Json.denotes_whole _, by omega, hread, ?_⟩
  rw [hread]
  decide

end TokenBridge.Relay.Message
