import TokenBridge.Signer

/-!
# Wallets

A wallet has one address on many chains. Which chains it is configured for is
known without asking; balances, the signer of a chain, and whatever that signer
does are asked for. A signer is known by the name under which the wallet filed
its chain, and by its address.
-/

namespace TokenBridge

structure Wallet where
  address : Address
  /-- The names of the configured chains, in the order in which the wallet lists them. -/
  configured : List String
  isConfigured : String → Bool

namespace Wallet

/-- A signer handed out by a wallet. -/
structure ChainSigner where
  name : String
  address : Address
  deriving DecidableEq, Repr

inductive Request where
  | tokenBalance (chain : String)
  | nativeBalance (chain : String)
  | openSigner (chain : String)
  | onSigner (signer : ChainSigner) (r : Signer.Request)
  deriving DecidableEq, Repr

def interface : Interface where
  Request := Request
  Answer
    | .tokenBalance _ => Except Report Amount
    | .nativeBalance _ => Except Report Amount
    | .openSigner _ => Except Report ChainSigner
    | .onSigner _ r => Signer.interface.Answer r

/-- A program of one of the wallet's signers as a program of the wallet. -/
def through {α : Type} (signer : ChainSigner) (p : Program Signer.interface α) :
    Program interface α :=
  p.relay (J := interface) (.onSigner signer) fun _ answer => answer

end Wallet

end TokenBridge
