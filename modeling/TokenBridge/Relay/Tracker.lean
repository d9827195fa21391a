import TokenBridge.Error
import TokenBridge.Relay.Message

/-!
# Waiting for delivery

A tracker looks a message up again and again until its status is final. Its
index is a sequence of lookups, each an answer and the time it takes, so a wait
is a function of that sequence:

* no lookup starts at or after the deadline; one that has started is not cut
  off by it;
* a message that is not indexed yet and a status that is not final are followed
  by a pause of the poll interval, or of the time left if that is less;
* any other answer ends the wait;
* each change of the status is told to the listener once, before the wait ends;
* a cancellation ends a lookup or a pause at its own instant, but an answer that
  arrives at that instant counts.

Instants are nanoseconds since the wait began, and a pause takes exactly as long
as it is meant to. A clock does not count for ever: where it has no instant for
the deadline, the wait ends the program before it has looked at anything.
-/

namespace TokenBridge.Relay

open Number (Span)

/-- An answer of the index and the nanoseconds it takes. -/
structure Lookup where
  answer : Except RelayError Message
  duration : Nat

/-- When a wait that can be cancelled is cancelled from outside, if it is. -/
inductive Cancellation where
  | never
  /-- Before the wait begins. -/
  | before
  | at (instant : Nat)
  deriving DecidableEq, Repr

/-- What a caller chooses for a wait. A timeout or a poll interval that is unset or zero is the
tracker's own. -/
structure WaitOptions where
  timeout : Option Span := none
  pollInterval : Option Span := none
  /-- Told the statuses so far, the newest last, at each change; says whether it cancels. -/
  listener : Option (List Status → Bool) := none
  /-- A wait without it cannot be cancelled, by its listener neither. -/
  cancellation : Option Cancellation := none

namespace WaitOptions

def optionText : Option String → String
  | some s => "Some(" ++ s ++ ")"
  | none => "None"

def flagText (b : Bool) : String := if b then "true" else "false"

def cancellationText (c : Cancellation) : String :=
  "CancellationToken \x7b is_cancelled: " ++ flagText (c == .before) ++ " \x7d"

def text (o : WaitOptions) : String :=
  "WaitOptions \x7b timeout: " ++ optionText (o.timeout.map Span.text) ++ ", poll_interval: " ++
    optionText (o.pollInterval.map Span.text) ++ ", on_status_change: " ++
    flagText o.listener.isSome ++ ", cancel: " ++
    optionText (o.cancellation.map cancellationText) ++ " \x7d"

/-- The instant at which somebody else cancels during the wait. -/
def cancelInstant? (o : WaitOptions) : Option Nat :=
  match o.cancellation with
  | some (.at t) => some t
  | _ => none

end WaitOptions

/-- The end of a wait. -/
structure WaitReport where
  /-- None where the wait ends the program. -/
  result : Option (Except RelayError Message)
  /-- The instant at which the wait ends. -/
  finished : Nat
  /-- The instants at which lookups started. -/
  starts : List Nat
  /-- How many lookups were answered. -/
  answered : Nat
  /-- The changes of the status. -/
  changes : List Status

/-- A wait whose options are settled. -/
structure Wait where
  guid : String
  timeout : Span
  interval : Nat
  interval_pos : 0 < interval
  /-- Says whether the wait is cancelled after these changes. -/
  cancelsAfter : List Status → Bool
  cancelAt : Option Nat

namespace Wait

/-- The instant of a cancellation before `t`. -/
def cancelledBefore? (w : Wait) (t : Nat) : Option Nat := w.cancelAt.filter (· < t)

/-- The end of the pause that begins at an instant. -/
def wake (w : Wait) (now : Nat) : Nat := now + min w.interval (w.timeout.nanos - now)

theorem lt_wake (w : Wait) {now : Nat} (h : now < w.timeout.nanos) : now < w.wake now := by
  have := w.interval_pos
  unfold wake
  omega

theorem le_wake (w : Wait) (now : Nat) : now ≤ w.wake now := Nat.le_add_right ..

/-- What one answer at an instant means: the wait ends, or pauses. -/
inductive Step where
  | ends (result : Except RelayError Message)
  | cancels
  | pauses

/-- The step that an answer leads to; `told` are the changes up to and including this answer, and
`news` says whether it was one. -/
def step (w : Wait) (answer : Except RelayError Message) (news : Bool) (told : List Status) :
    Step :=
  match answer with
  | .error e => if e.isNotFound then .pauses else .ends (.error e)
  | .ok m =>
    match m.status.verdict with
    | .delivered => .ends (.ok m)
    | .failed => .ends (.error (.messageFailed w.guid))
    | .blocked => .ends (.error (.messageBlocked w.guid))
    | .pending => if news && w.cancelsAfter told then .cancels else .pauses

def isNews (seen : Observer) : Except RelayError Message → Bool
  | .ok m => seen.isNews m.status
  | .error _ => false

def observed (seen : Observer) : Except RelayError Message → Observer
  | .ok m => seen.observe m.status
  | .error _ => seen

def changed (told : List Status) (seen : Observer) : Except RelayError Message → List Status
  | .ok m => if seen.isNews m.status then told ++ [m.status] else told
  | .error _ => told

/-- The wait from an instant on, at which it is not cancelled: `k` lookups are done. -/
def loop (w : Wait) (index : Nat → Lookup) (k : Nat) (seen : Observer) (told : List Status)
    (start : Nat) : WaitReport :=
  if _h : w.timeout.nanos ≤ start then
    ⟨some (.error (.timeout w.guid w.timeout)), start, [], 0, told⟩
  else
    let answer := (index k).answer
    let now := start + (index k).duration
    match w.cancelledBefore? now with
    | some c => ⟨some (.error (.cancelled w.guid)), max c start, [start], 0, told⟩
    | none =>
      let told' := changed told seen answer
      match w.step answer (isNews seen answer) told' with
      | .ends result => ⟨some result, now, [start], 1, told'⟩
      | .cancels => ⟨some (.error (.cancelled w.guid)), now, [start], 1, told'⟩
      | .pauses =>
        match w.cancelledBefore? (w.wake now + 1) with
        | some c => ⟨some (.error (.cancelled w.guid)), max c now, [start], 1, told'⟩
        | none =>
          let rest := loop w index (k + 1) (observed seen answer) told' (w.wake now)
          { rest with
            starts := start :: rest.starts
            answered := rest.answered + 1 }
  termination_by w.timeout.nanos - start
  decreasing_by
    have hle : start ≤ start + (index k).duration := Nat.le_add_right ..
    have hw : start < w.wake (start + (index k).duration) := by
      by_cases hn : start + (index k).duration < w.timeout.nanos
      · exact Nat.lt_of_le_of_lt hle (w.lt_wake hn)
      · have := w.le_wake (start + (index k).duration)
        omega
    omega

end Wait

/-! ## Trackers -/

/-- The poll interval and the timeout that hold where a wait leaves them open. -/
structure Tracker where
  pollInterval : Span := .ofSeconds 10
  timeout : Span := .ofSeconds 600
  deriving DecidableEq, Repr

namespace Tracker

/-- The span of an option, or the tracker's own where it is unset or zero. -/
def settle (own : Span) (chosen : Option Span) : Span :=
  (chosen.filter (·.nanos != 0)).getD own

/-- The options of a wait with the tracker's defaults; a poll interval of no length at all counts
as the least one. -/
def plan (t : Tracker) (guid : String) (o : WaitOptions) : Wait :=
  { guid
    timeout := settle t.timeout o.timeout
    interval := max 1 (settle t.pollInterval o.pollInterval).nanos
    interval_pos := Nat.le_max_left ..
    cancelsAfter told := o.cancellation.isSome && (o.listener.map (· told)).getD false
    cancelAt := o.cancelInstant? }

/-- Waits until a message is delivered, fails, is blocked, or the wait is over. The clock counts
`reach` nanoseconds from the beginning of the wait on. -/
def wait (t : Tracker) (reach : Nat) (index : Nat → Lookup) (guid : String) (o : WaitOptions) :
    WaitReport :=
  if reach < (t.plan guid o).timeout.nanos then ⟨none, 0, [], 0, []⟩
  else if o.cancellation = some .before then ⟨some (.error (.cancelled guid)), 0, [], 0, []⟩
  else (t.plan guid o).loop index 0 {} [] 0

def isDelivered (answer : Except RelayError Message) : Except RelayError Bool :=
  match answer with
  | .ok m => .ok m.isDelivered
  | .error e => if e.isNotFound then .ok false else .error e

def text (t : Tracker) : String :=
  "DeliveryTracker \x7b poll_interval: " ++ t.pollInterval.text ++ ", timeout: " ++
    t.timeout.text ++ ", .. \x7d"

end Tracker

end TokenBridge.Relay
