import TokenBridge.Chain
import TokenBridge.Relay.Tracker

/-!
# Scripted delivery indexes

An index that answers from a script, one entry a lookup; the last entry is
given again and again, and without any entry nothing is ever found. Lookups may
take time, each its own. One that is abandoned takes no entry of the script.
-/

namespace TokenBridge.Scripted

open Relay (Lookup Message Status)

inductive Entry where
  | status (s : Status)
  | http (code : Nat)
  | notFound

structure Index where
  script : List Entry := []
  /-- How long the lookups take, in order; later ones take no time. -/
  delays : List Number.Span := []
  walletMessages : List Message := []
  /-- The lookups begun. -/
  begun : Nat := 0
  /-- The lookups answered. -/
  answered : Nat := 0

def hashText (n : Nat) : String := Hash.text ⟨BitVec.ofNat 256 n⟩

/-- A message from arbitrum to ethereum in a status. -/
def message (guid : String) (status : Status) : Message :=
  let delivered := status == .delivered
  { guid
    sourceEndpoint := Chain.arbitrum.endpoint
    destinationEndpoint := Chain.ethereum.endpoint
    sender := Chain.arbitrum.tokenText
    receiver := Chain.ethereum.tokenText
    sourceHash := hashText 1
    destinationHash := if delivered then some (hashText 2) else none
    status
    sourceBlock := 1000
    destinationBlock := if delivered then some 2000 else none
    created := "2025-01-01T00:00:00.000Z"
    updated := "2025-01-01T00:05:00.000Z" }

namespace Index

def entry (x : Index) (n : Nat) : Entry :=
  ((x.script[n]?).or x.script.getLast?).getD .notFound

def answer (x : Index) (guid : String) (n : Nat) : Except RelayError Message :=
  match x.entry n with
  | .status s => .ok (message guid s)
  | .http code => .error (.status code "mock relay error")
  | .notFound => .error (.notFound guid)

def lookups (x : Index) (guid : String) (k : Nat) : Lookup where
  answer := x.answer guid (x.answered + k)
  duration := ((x.delays[x.begun + k]?).getD .zero).nanos

def after (x : Index) (begun answered : Nat) : Index :=
  { x with begun := x.begun + begun, answered := x.answered + answered }

/-- The messages of a wallet, at most `limit` of them; a limit of zero is none. -/
def history (x : Index) (limit : Nat) : List Message :=
  if limit = 0 then x.walletMessages else x.walletMessages.take limit

end Index

end TokenBridge.Scripted
