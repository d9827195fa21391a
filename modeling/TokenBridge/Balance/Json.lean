import TokenBridge.Balance
import TokenBridge.Word.Json

/-!
# Balances in JSON
-/

namespace TokenBridge

def ChainBalance.toJson (b : ChainBalance) : Json :=
  .obj [("chain", .str b.chain), ("token_balance", b.token.toJson),
    ("native_balance", b.native.toJson), ("can_bridge", .bool b.eligible)]

def ChainBalance.fields : List String := ["chain", "token_balance", "native_balance", "can_bridge"]

def ChainBalance.fromJson? (v : Json) : Option ChainBalance :=
  match v.fields? ChainBalance.fields 0 with
  | some [some chain, some token, some native, some eligible] => do
    return {
      chain := ← chain.string?
      token := ← Amount.fromJson? token
      native := ← Amount.fromJson? native
      eligible := ← eligible.bool? }
  | _ => none

def BalanceSummary.toJson (s : BalanceSummary) : Json :=
  .obj [("balances", .arr (s.balances.map ChainBalance.toJson)),
    ("total_token_balance", s.total.toJson), ("bridgeable_chains", .strs s.eligible)]

def BalanceSummary.fields : List String := ["balances", "total_token_balance", "bridgeable_chains"]

def BalanceSummary.fromJson? (v : Json) : Option BalanceSummary :=
  match v.fields? BalanceSummary.fields 0 with
  | some [some balances, some total, some eligible] => do
    return {
      balances := ← balances.list? ChainBalance.fromJson?
      total := ← Amount.fromJson? total
      eligible := ← eligible.list? Json.string? }
  | _ => none

end TokenBridge
