import TokenBridge.Error
import TokenBridge.Text.Blank

/-!
# Routes

A route is a candidate source chain for a transfer, either available with a
quoted fee or unavailable with a reason. Of the available routes a strategy
picks the cheapest, the fastest, or a preferred source; the first of several
equals wins, and a preferred source that is not available leaves the cheapest.
-/

namespace TokenBridge

inductive Strategy where
  | cheapest
  | fastest
  | preferred
  deriving DecidableEq, Repr

namespace Strategy

def text : Strategy → String
  | cheapest => "cheapest"
  | fastest => "fastest"
  | preferred => "preferred"

/-- The strategy of a word in any case, blanks around it aside. -/
def read (s : String) : Except Report Strategy :=
  let word := Text.foldCase (Text.trim s)
  if word = cheapest.text then .ok cheapest
  else if word = fastest.text then .ok fastest
  else if word = preferred.text then .ok preferred
  else .error (.of ("unknown route strategy " ++ Text.quote word ++
    " (expected cheapest, fastest or preferred)"))

end Strategy

structure Route where
  source : String
  destination : String
  /-- The quoted fee; none until a quote has succeeded. -/
  nativeFee : Option Amount
  seconds : BitVec 64
  available : Bool
  /-- Why the route is not available. -/
  reason : Option String
  /-- The most that the route can carry. -/
  amount : Amount
  deriving DecidableEq, Repr

namespace Route

/-- A route that is not quoted yet. -/
def pending (source destination : String) (amount : Amount) : Route :=
  { source
    destination
    nativeFee := none
    seconds := Chain.estimatedDelivery source destination
    available := false
    reason := none
    amount }

def unavailable (r : Route) (reason : String) : Route :=
  { r with available := false, reason := some reason }

def quoted (r : Route) (fee : Amount) : Route :=
  { r with nativeFee := some fee, available := true, reason := none }

/-! ## Selection -/

/-- Both fees are known and the first is less. -/
def cheaper (r best : Route) : Bool :=
  match r.nativeFee, best.nativeFee with
  | some fee, some least => decide (fee < least)
  | _, _ => false

def faster (r best : Route) : Bool := decide (r.seconds < best.seconds)

/-- The first element that no later one betters. -/
def best (better : Route → Route → Bool) : List Route → Option Route
  | [] => none
  | r :: rest => some (rest.foldl (fun best r => if better r best then r else best) r)

/-- The first route from a source, up to the case of ASCII letters; an empty name has none. -/
def from? (name : String) (routes : List Route) : Option Route :=
  if name.isEmpty then none else routes.find? fun r => Text.sameText r.source name

/-- The route that a strategy picks. -/
def select (routes : List Route) (strategy : Strategy) (preferred : Option String) :
    Option Route :=
  let usable := routes.filter (·.available)
  match strategy with
  | .cheapest => best cheaper usable
  | .fastest => best faster usable
  | .preferred => (preferred.bind fun name => from? name usable).or (best cheaper usable)

end Route

end TokenBridge
