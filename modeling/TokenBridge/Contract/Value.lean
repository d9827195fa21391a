import TokenBridge.Contract.Call
import TokenBridge.Error

/-!
# Results of contract reads

A read gives a loosely typed value. An amount is a bare number, or a number in
one-element tuples. A fee is a typed fee, or a tuple whose first two elements
are amounts, or a map with `nativeFee` and perhaps `lzTokenFee`; one-element
tuples around it are looked through.
-/

namespace TokenBridge.Contract

inductive Value where
  | uint (n : Amount)
  | bool (b : Bool)
  | bytes (bs : Bytes)
  | fee (f : MessagingFee)
  | tuple (items : List Value)
  | map (fields : List (String × Value))
  deriving Repr

namespace Value

def kind : Value → String
  | uint _ => "uint"
  | bool _ => "bool"
  | bytes _ => "bytes"
  | fee _ => "fee"
  | tuple _ => "tuple"
  | map _ => "map"

def toAmount (what : String) : Value → Except BridgeError Amount
  | uint n => .ok n
  | tuple [v] => v.toAmount what
  | v => .error (.decode what ("expected uint, got " ++ v.kind))

def field? (name : String) (fields : List (String × Value)) : Option Value :=
  (fields.find? fun f => f.1 == name).map (·.2)

end Value

def MessagingFee.what : String := "fee"

def MessagingFee.ofValue : Value → Except BridgeError MessagingFee
  | .fee f => .ok f
  | .tuple [v] => ofValue v
  | .tuple (a :: b :: _) =>
    match a.toAmount what, b.toAmount what with
    | .ok native, .ok network => .ok ⟨native, network⟩
    | .error e, _ => .error e
    | .ok _, .error e => .error e
  | .tuple [] => .error (.decode what "tuple of 0 elements")
  | .map fields =>
    match Value.field? "nativeFee" fields with
    | none => .error (.decode what "map without nativeFee")
    | some a =>
      match a.toAmount what with
      | .error e => .error e
      | .ok native =>
        match Value.field? "lzTokenFee" fields with
        | none => .ok ⟨native, 0⟩
        | some b => (b.toAmount what).map fun network => ⟨native, network⟩
  | v => .error (.decode what v.kind)

end TokenBridge.Contract
