import TokenBridge.Bridge
import TokenBridge.Text.LowerCase
import TokenBridge.Wallet

/-!
# Kept clients

A bridge client is made the first time a chain is used and kept under the
lower-case form of the name it was asked by. A chain that the wallet is not
configured for, whose signer cannot be had, or that does not carry the token
leaves the cache as it is. Clients are numbered in the order of their making,
so a number tells whether two answers are the same client.
-/

namespace TokenBridge.Bridge

/-- A client with the signer it is bound to and its number. -/
structure Kept where
  client : Client
  signer : Wallet.ChainSigner
  serial : Nat
  deriving DecidableEq, Repr

structure Cache where
  clients : List (String × Kept)
  made : Nat
  deriving DecidableEq, Repr

namespace Cache

def empty : Cache := ⟨[], 0⟩

def find? (cache : Cache) (key : String) : Option Kept :=
  (cache.clients.find? fun c => c.1 == key).map (·.2)

def size (cache : Cache) : Nat := cache.clients.length

/-- The cache without its clients; numbers are not used again. -/
def clear (cache : Cache) : Cache := ⟨[], cache.made⟩

/-- The cache with a new client under a key. -/
def keep (cache : Cache) (key : String) (client : Client) (signer : Wallet.ChainSigner) :
    Kept × Cache :=
  let kept := ⟨client, signer, cache.made⟩
  (kept, ⟨cache.clients ++ [(key, kept)], cache.made + 1⟩)

def get (w : Wallet) (cache : Cache) (name : String) :
    Program Wallet.interface (Except BridgeError Kept × Cache) :=
  let key := Text.lowerCase name
  match cache.find? key with
  | some kept => .done (.ok kept, cache)
  | none =>
    if !w.isConfigured key then .done (.error (.chainNotConfigured key), cache)
    else .ask (.openSigner key) fun (answer : Except Report Wallet.ChainSigner) =>
      match answer with
      | .error report => .done (.error (.chainCall key "get signer" report), cache)
      | .ok signer =>
        match Client.ofName key signer.address with
        | .error e => .done (.error e, cache)
        | .ok client =>
          let (kept, cache) := cache.keep key client signer
          .done (.ok kept, cache)

end Cache

end TokenBridge.Bridge
