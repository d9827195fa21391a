import TokenBridge.Route
import TokenBridge.Slippage

/-!
# Settings of a router

The values that a router takes where a call leaves them open.
-/

namespace TokenBridge

def publicScanUrl : String := "https://scan.layerzero-api.com/v1"

structure Settings where
  /-- The native balance from which on a chain is eligible. -/
  leastNative : Amount
  strategy : Strategy
  slippage : Number.Binary64
  pollInterval : Number.Span
  deliveryTimeout : Number.Span
  scanUrl : String
  requestTimeout : Number.Span
  deriving DecidableEq, Repr

namespace Settings

def default : Settings where
  leastNative := 1000000000000000
  strategy := .cheapest
  slippage := Slippage.default
  pollInterval := .ofSeconds 10
  deliveryTimeout := .ofSeconds 600
  scanUrl := publicScanUrl
  requestTimeout := .ofSeconds 30

end Settings

end TokenBridge
