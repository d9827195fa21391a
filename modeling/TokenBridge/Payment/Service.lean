import TokenBridge.Payment
import TokenBridge.Relay.Tracker

/-!
# Payment services

A payment service pays from one chain and tracks the messages of its payments.
-/

namespace TokenBridge.Payment

structure Service where
  client : Bridge.Client
  tracker : Relay.Tracker := {}
  deriving DecidableEq, Repr

namespace Service

def ofName (name : String) (address : Address) : Except BridgeError Service :=
  (Bridge.Client.ofName name address).map fun client => { client }

def text (s : Service) : String :=
  "CrossChainPaymentRouter \x7b bridge: " ++ s.client.text ++ ", tracker: " ++ s.tracker.text ++
    " \x7d"

end Service

end TokenBridge.Payment
