import TokenBridge.Json.Member
import TokenBridge.Signer
import TokenBridge.Word.Json

/-!
# Receipts in JSON
-/

namespace TokenBridge

def Log.toJson (l : Log) : Json :=
  .obj [("address", l.address.toJson), ("topics", .arr (l.topics.map Hash.toJson)),
    ("data", l.data.toJson)]

def Log.fromJson? (v : Json) : Option Log := do
  return {
    address := ← v.need? "address" Address.fromJson?
    topics := ← v.items? "topics" Hash.fromJson?
    data := ← v.default? "data" [] Bytes.fromJson? }

def Receipt.toJson (r : Receipt) : Json :=
  .obj [("status", .bool r.status), ("tx_hash", r.hash.toJson),
    ("logs", .arr (r.logs.map Log.toJson))]

def Receipt.fromJson? (v : Json) : Option Receipt := do
  return {
    status := ← v.need? "status" Json.bool?
    hash := ← v.need? "tx_hash" Hash.fromJson?
    logs := ← v.items? "logs" Log.fromJson? }

end TokenBridge
