import TokenBridge.Number.Span
import TokenBridge.Scripted.Signer
import TokenBridge.Text.LowerCase
import TokenBridge.Wallet

/-!
# Scripted wallets

A wallet whose chains have fixed balances and scripted signers. Chains are
filed under their lower-case names; a chain given twice is the later one. Each
balance query takes the same time, and those that were answered are counted
with the instant of their answer.
-/

namespace TokenBridge.Scripted

/-- A chain of a scripted wallet. -/
structure Chain where
  token : Amount
  native : Amount
  /-- Balance queries fail. -/
  failing : Bool
  signer : Signer

structure Wallet where
  address : Address
  chains : List (String × Chain) := []
  delay : Number.Span := .zero
  /-- Failures of native balance queries, by chain. -/
  nativeErrors : List (String × String) := []
  /-- Failures to hand out a signer, by chain. -/
  signerErrors : List (String × String) := []
  /-- Chains that the wallet says it is not configured for. -/
  hidden : List String := []
  /-- More names that the wallet lists as configured. -/
  extraConfigured : List String := []
  signerRequests : Nat := 0
  /-- When balance queries were answered. -/
  answered : List Nat := []

namespace Wallet

def find? {α : Type} (entries : List (String × α)) (key : String) : Option α :=
  (entries.find? fun e => e.1 == key).map (·.2)

def chain? (w : Wallet) (name : String) : Option Chain := find? w.chains (Text.lowerCase name)

/-- The wallet with a chain, in the place of an earlier one of the name. -/
def withChain (w : Wallet) (name : String) (c : Chain) : Wallet :=
  let key := Text.lowerCase name
  { w with chains := ((key, c) :: w.chains.filter (·.1 != key)).mergeSort fun a b =>
      decide (a.1 ≤ b.1) }

def withSigner (w : Wallet) (key : String) (s : Signer) : Wallet :=
  { w with chains := w.chains.map fun c =>
      if c.1 == key then (key, { c.2 with signer := s }) else c }

def toWallet (w : Wallet) : TokenBridge.Wallet where
  address := w.address
  configured := w.chains.map (·.1) ++ w.extraConfigured
  isConfigured name := (w.chain? name).isSome && !w.hidden.contains (Text.lowerCase name)

def balance (w : Wallet) (name : String) (pick : Chain → Amount) : Except Report Amount :=
  match w.chain? name with
  | none => .error (.of ("chain " ++ name ++ " not configured"))
  | some c =>
    if c.failing then .error (.of ("RPC error on " ++ name ++ ": connection refused"))
    else .ok (pick c)

def countBalance (w : Wallet) (instant : Nat) (answer : Except Report Amount) : Wallet :=
  match answer with
  | .ok _ => { w with answered := w.answered ++ [instant] }
  | .error _ => w

/-- The native balance with the failure put in its place. -/
def nativeAnswer (w : Wallet) (name : String) : Except Report Amount :=
  match find? w.nativeErrors (Text.lowerCase name) with
  | some message => .error (.of message)
  | none => w.balance name (·.native)

def openSigner (w : Wallet) (name : String) : Except Report TokenBridge.Wallet.ChainSigner :=
  match find? w.signerErrors (Text.lowerCase name), w.chain? name with
  | some message, _ => .error (.of message)
  | none, none => .error (.of ("chain " ++ name ++ " not configured"))
  | none, some c => .ok ⟨Text.lowerCase name, c.signer.address⟩

def handler : Handler TokenBridge.Wallet.interface Wallet where
  reply now r w :=
    match r with
    | .tokenBalance name =>
      let answer := w.balance name (·.token)
      ⟨answer, w.delay.nanos, w.countBalance (now + w.delay.nanos) answer⟩
    | .nativeBalance name =>
      ⟨w.nativeAnswer name, w.delay.nanos,
        w.countBalance (now + w.delay.nanos) (w.balance name (·.native))⟩
    | .openSigner name =>
      ⟨w.openSigner name, 0, { w with signerRequests := w.signerRequests + 1 }⟩
    | .onSigner signer r =>
      let s := match w.chain? signer.name with
        | some c => c.signer
        | none => {}
      ⟨(s.answer r).1, 0, w.withSigner signer.name (s.answer r).2⟩

/-- The number of balance queries answered before an instant. -/
def answeredBefore (w : Wallet) (instant : Nat) : Nat :=
  (w.answered.filter (· < instant)).length

/-- What is left of a run whose caller gives up at an instant. -/
structure Remains (α : Type) where
  /-- The result, if it came before that instant. -/
  result : Option α
  finished : Nat
  /-- The balance queries that were answered. -/
  answered : Nat

/-- A run whose caller gives up at an instant; without one, the caller waits to the end. -/
def remains {α : Type} (giveUp : Option Nat)
    (run : Run TokenBridge.Wallet.interface Wallet α) : Remains α :=
  match giveUp.filter (· ≤ run.finished) with
  | some instant => ⟨none, instant, run.state.answeredBefore instant⟩
  | none => ⟨some run.result, run.finished, run.state.answered.length⟩

end Wallet

end TokenBridge.Scripted
