import TokenBridge.Rpc.Account
import TokenBridge.Wallet
import TokenBridge.Wallet.Config

/-!
# Wallets over nodes

One key on every enabled chain of a configuration. Chains are filed under their
lower-case names, in the order of the names.
-/

namespace TokenBridge.Rpc

structure NodeWallet where
  address : Address
  accounts : List (String × Account)

namespace NodeWallet

def accountsOf (parse : Url.Parser) (key : Crypto.Secp256k1.PrivateKey) :
    List ChainAccess → Except Report (List (String × Account))
  | [] => .ok []
  | c :: rest => do
    let account ← Account.ofKey parse c.name c.url key
    let others ← accountsOf parse key rest
    return (c.name, account) :: others

def ofConfig (parse : Url.Parser) (c : WalletConfig) : Except Report NodeWallet :=
  match Crypto.Secp256k1.PrivateKey.read c.key.secret with
  | .error e => .error e.report
  | .ok key => do
    let accounts ← accountsOf parse key c.enabled
    return ⟨key.address, accounts.mergeSort fun a b => Chain.nameLe a.1 b.1⟩

def account (w : NodeWallet) (name : String) : Except Report Account :=
  match (w.accounts.find? fun a => a.1 == Text.lowerCase name).map (·.2) with
  | some a => .ok a
  | none => .error (.of ("Chain " ++ name ++ " is not configured"))

def toWallet (w : NodeWallet) : Wallet where
  address := w.address
  configured := w.accounts.map (·.1)
  isConfigured name := (w.accounts.find? fun a => a.1 == Text.lowerCase name).isSome

def nativeBalance (w : NodeWallet) (chain : String) : Work Amount := do
  let a ← Attempt.ofExcept (w.account chain)
  a.balanceOf w.address

def tokenBalance (w : NodeWallet) (chain : String) : Work Amount := do
  match Chain.lookup chain with
  | none => Attempt.ofExcept (.error (.of (chain ++ " has no USDT0 deployment")))
  | some c =>
    let a ← Attempt.ofExcept (w.account chain)
    let value ← a.read c.token (.balanceOf w.address)
    Attempt.ofExcept ((value.toAmount "balanceOf").mapError fun e => .of e.message)

def text (w : NodeWallet) : String :=
  let entry (a : String × Account) : String := Text.quote a.1 ++ ": " ++ a.2.text
  "EvmMultiChainSigner \x7b address: " ++ w.address.text ++ ", chains: \x7b" ++
    ", ".intercalate (w.accounts.map entry) ++ "\x7d \x7d"

end NodeWallet

end TokenBridge.Rpc
