import TokenBridge.Json.Member
import TokenBridge.Number.Binary64.Read
import TokenBridge.Number.Binary64.Shortest
import TokenBridge.Route.Json
import TokenBridge.Settings
import TokenBridge.Word.Json

/-!
# Settings in JSON

Settings are written in full, with spans in milliseconds and the slippage as the
digits of its bits. They are read over the defaults, the slippage from a numeral
in a string.
-/

namespace TokenBridge

open Number (Binary64 Span)

/-- A number as the digits of its bits. -/
def Number.Binary64.toJson (x : Binary64) : Json := .str x.bitsText

def Number.Binary64.fromJson? : Json → Option Binary64
  | .str s => Binary64.read? s
  | _ => none

/-- The whole milliseconds of a span. -/
def Number.Span.toJson (d : Span) : Json := .nat d.millis

def Number.Span.fromJson? (v : Json) : Option Span := v.whole?.map Span.ofMillis

namespace Settings

def toJson (s : Settings) : Json :=
  .obj [("min_native", s.leastNative.toDecimalJson), ("strategy", s.strategy.toJson),
    ("slippage", s.slippage.toJson), ("poll_ms", s.pollInterval.toJson),
    ("timeout_ms", s.deliveryTimeout.toJson), ("scan_base_url", .str s.scanUrl),
    ("request_timeout_ms", s.requestTimeout.toJson)]

def fromJson? (v : Json) : Option Settings := do
  return { default with
    leastNative := ← v.default? "min_native" default.leastNative Amount.fromDecimalJson?
    strategy := ← v.default? "strategy" default.strategy Strategy.fromJson?
    slippage := ← v.default? "slippage" default.slippage Binary64.fromJson?
    pollInterval := ← v.default? "poll_ms" default.pollInterval Span.fromJson?
    deliveryTimeout := ← v.default? "timeout_ms" default.deliveryTimeout Span.fromJson?
    scanUrl := ← v.default? "scan_base_url" default.scanUrl Json.string? }

end Settings

end TokenBridge
