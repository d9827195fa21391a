import Mathlib.Algebra.Order.Floor.Div
import TokenBridge.Proofs.Relay.Course

/-!
# The deadline of a wait

Lookups start in time and at least the poll interval apart, so a wait makes at
most as many as there are intervals until the deadline, rounded up
(`Tracker.wait_bounded`). The pauses are cut short at the deadline, but a lookup
that was begun in time is not: a wait is over by the deadline unless the last
lookup is still under way then (`Tracker.wait_overrun`).
-/

namespace TokenBridge.Relay

open Number (Span)

namespace Wait

variable {w : Wait} {index : Nat → Lookup} {k n begun answered finished : Nat} {r : WaitReport}
  {result : Option (Except RelayError Message)}

/-! ## When lookups start -/

/-- A pause that ends in time has its whole length. -/
theorem add_interval_le_wake {now : Nat} (h : w.wake now < w.timeout.nanos) :
    now + w.interval ≤ w.wake now := by
  unfold wake at h ⊢
  omega

theorem add_interval_le_startOf (h : w.startOf index (k + 1) < w.timeout.nanos) :
    w.startOf index k + w.interval ≤ w.startOf index (k + 1) := by
  have hgap : w.arrival index k + w.interval ≤ w.startOf index (k + 1) := add_interval_le_wake h
  have hle : w.startOf index k ≤ w.arrival index k := startOf_le_arrival
  omega

theorem mul_interval_le_startOf (h : w.startOf index k < w.timeout.nanos) :
    k * w.interval ≤ w.startOf index k := by
  induction k with
  | zero => simp
  | succ k ih =>
    have hk : w.startOf index k ≤ w.startOf index (k + 1) := w.startOf_mono index (Nat.le_succ k)
    have hgap := add_interval_le_startOf h
    have := ih (by omega)
    rw [Nat.succ_mul]
    omega

theorem startOf_of_immediate (h : ∀ k, (index k).duration = 0) (k : Nat) :
    w.startOf index k = min (k * w.interval) w.timeout.nanos := by
  induction k with
  | zero => simp
  | succ k ih =>
    rw [startOf_succ, arrival, h k, Nat.add_zero, ih, wake, Nat.succ_mul]
    omega

/-! ## When a wait is over -/

theorem Closes.finished_le (h : w.Closes index n (k + 1) answered result finished) :
    finished ≤ max (w.arrival index k) w.timeout.nanos := by
  cases h with
  | late => exact w.wake_le _
  | cutOff _ _ hlt =>
    have hstart : w.startOf index k ≤ w.arrival index k := startOf_le_arrival
    omega
  | ended | calledOff => exact Nat.le_max_left ..
  | awoken _ _ _ hc => exact Nat.le_trans hc (w.wake_le _)

theorem Closes.finished_of_no_starts (h : w.Closes index n 0 answered result finished) :
    finished = 0 := by
  cases h with
  | late => exact startOf_zero

/-- A wait that fails with a timeout before the deadline passes a failure of its last lookup on. -/
theorem Closes.timeout_late {guid : String} {span : Span}
    (h : w.Closes index n begun answered (some (.error (.timeout guid span))) finished) :
    w.timeout.nanos ≤ finished ∨
      ∃ k, answered = k + 1 ∧ (index k).answer = .error (.timeout guid span) := by
  cases h with
  | late hlate => exact .inl hlate
  | ended _ _ hstep =>
    refine .inr ⟨n, rfl, ?_⟩
    cases ha : (index n).answer with
    | error e =>
      cases hn : e.isNotFound with
      | true => simp [stepAt, step, ha, hn] at hstep
      | false => simpa [stepAt, step, ha, hn] using hstep
    | ok m =>
      cases hs : m.status <;> simp [stepAt, step, ha, hs, Status.verdict] at hstep <;>
        split at hstep <;> cases hstep

theorem Closes.result_ne_none (h : w.Closes index n begun answered result finished) :
    result ≠ none := by
  cases h <;> exact Option.some_ne_none _

/-- A wait that nobody cancels and no answer ends is over at the instant at which it would make the
next lookup. -/
theorem Closes.of_never_decisive (h : w.Closes index n begun answered result finished)
    (hw : w.Undisturbed) (hd : ∀ k, decisive (index k).answer = false) :
    begun = n ∧ w.timeout.nanos ≤ w.startOf index n ∧
      result = some (.error (.timeout w.guid w.timeout)) ∧ finished = w.startOf index n := by
  cases h with
  | late hlate => exact ⟨rfl, hlate, rfl, rfl⟩
  | cutOff _ hcancel | awoken _ hcancel => cases hw.outside.symm.trans hcancel
  | ended _ _ hstep | calledOff _ _ hstep => cases (hw.stepAt (hd n)).symm.trans hstep

/-! ## How many lookups are made -/

theorem Course.length_starts_le (h : Course w index 0 n r) :
    r.starts.length ≤ w.timeout.nanos ⌈/⌉ w.interval := by
  cases hb : r.starts.length with
  | zero => exact Nat.zero_le _
  | succ b =>
    have htime := h.inTime (k := b) (by omega)
    have hmul := mul_interval_le_startOf htime
    refine Nat.lt_of_not_le fun hle => ?_
    rw [ceilDiv_le_iff_le_mul w.interval_pos, Nat.mul_comm] at hle
    omega

end Wait

/-! ## Whole waits -/

namespace Tracker

/-- The span that holds for a wait: the chosen one, or the tracker's own where none is chosen or an
empty one. -/
structure InForce (own : Span) (chosen : Option Span) (span : Span) : Prop where
  eq_chosen : ∀ s ∈ chosen, s.nanos ≠ 0 → span = s
  eq_own : (∀ s ∈ chosen, s.nanos = 0) → span = own

theorem inForce_settle (own : Span) (chosen : Option Span) :
    InForce own chosen (settle own chosen) := by
  cases chosen with
  | none => exact ⟨nofun, fun _ => rfl⟩
  | some s =>
    by_cases hs : s.nanos = 0
    · exact ⟨by rintro _ ⟨⟩ hne; exact absurd hs hne, fun _ => by simp [settle, Option.filter, hs]⟩
    · refine ⟨by rintro _ ⟨⟩ _; simp [settle, Option.filter, hs], fun h => ?_⟩
      exact absurd (h s rfl) hs

theorem interval_plan (t : Tracker) (guid : String) (o : WaitOptions)
    (hi : 0 < (settle t.pollInterval o.pollInterval).nanos) :
    (t.plan guid o).interval = (settle t.pollInterval o.pollInterval).nanos := by
  simp only [plan]
  omega

/-- A wait is over by the deadline unless the lookup begun last is still under way then; it is over
with that lookup at the latest. Lookups are awaited however long they take, unless somebody cancels
the wait. -/
theorem wait_overrun (t : Tracker) (reach : Nat) (index : Nat → Lookup) (guid : String)
    (o : WaitOptions) :
    let timeout := settle t.timeout o.timeout
    let report := t.wait reach index guid o
    (report.finished ≤ timeout.nanos ∨
      ∃ k start, report.starts.length = k + 1 ∧ report.starts[k]? = some start ∧
        start < timeout.nanos ∧ timeout.nanos < start + (index k).duration ∧
        report.finished ≤ start + (index k).duration) ∧
    (o.cancelInstant? = none → o.cancellation ≠ some .before →
      ∀ k start, report.starts[k]? = some start →
        start + (index k).duration ≤ report.finished) := by
  intro timeout report
  rcases t.idle_or_course reach index guid o with ⟨result, hidle, -⟩ | ⟨-, -, n, hn⟩
  · rw [show report = _ from hidle]
    exact ⟨.inl (Nat.zero_le _), fun _ _ => nofun⟩
  refine ⟨?_, fun hcancel _ k start hk => ?_⟩
  · cases hk : report.starts.length with
    | zero => exact .inl (by simp [report, Wait.Closes.finished_of_no_starts (hk ▸ hn.closed)])
    | succ k =>
      have hlast : k < report.starts.length := by omega
      have hle : report.finished ≤ max ((t.plan guid o).arrival index k) timeout.nanos :=
        Wait.Closes.finished_le (hk ▸ hn.closed)
      rcases Nat.lt_or_ge timeout.nanos ((t.plan guid o).arrival index k) with hover | hle'
      · rw [Nat.max_eq_left (Nat.le_of_lt hover)] at hle
        exact .inr ⟨k, _, rfl, hn.getElem?_starts.2 ⟨hlast, rfl⟩, hn.inTime hlast, hover, hle⟩
      · exact .inl (by rwa [Nat.max_eq_right hle'] at hle)
  · obtain ⟨hlt, rfl⟩ := hn.getElem?_starts.1 hk
    exact hn.closed.arrival_le_finished hcancel hlt

/-- A lookup of five seconds keeps a wait of one second waiting. -/
theorem wait_ends_late :
    let x : Scripted.Index := { delays := [.ofSeconds 5] }
    let o : WaitOptions := { timeout := some (.ofSeconds 1), pollInterval := some (.ofMillis 100) }
    let report := ({} : Tracker).wait Span.clockReach (x.lookups "0x01") "0x01" o
    report.result = some (.error (.timeout "0x01" (.ofSeconds 1))) ∧
      ¬ report.finished ≤ (Span.ofSeconds 1).nanos := by
  cbv

/-- Lookups start before the deadline and at least the poll interval apart, so there are at most as
many as intervals until the deadline, rounded up, and exactly as many where they take no time and
nothing ends the wait. A wait does not time out before the deadline, though a lookup may fail with
a timeout of its own. Only a deadline out of reach keeps a wait from returning. -/
theorem wait_bounded (t : Tracker) (reach : Nat) (index : Nat → Lookup) (guid : String)
    (o : WaitOptions) (hi : 0 < (settle t.pollInterval o.pollInterval).nanos) :
    let timeout := settle t.timeout o.timeout
    let interval := settle t.pollInterval o.pollInterval
    let report := t.wait reach index guid o
    (∀ start ∈ report.starts, start < timeout.nanos) ∧
    (∀ k start next, report.starts[k]? = some start → report.starts[k + 1]? = some next →
      start + interval.nanos ≤ next) ∧
    report.starts.length ≤ timeout.nanos ⌈/⌉ interval.nanos ∧
    (timeout.nanos ≤ reach → o.Undisturbed →
      (∀ k, (index k).duration = 0 ∧ decisive (index k).answer = false) →
      report.starts.length = timeout.nanos ⌈/⌉ interval.nanos ∧
      report.result = some (.error (.timeout guid timeout)) ∧ report.finished = timeout.nanos) ∧
    (∀ g s, report.result = some (.error (.timeout g s)) →
      timeout.nanos ≤ report.finished ∨
        ∃ k, report.answered = k + 1 ∧ (index k).answer = .error (.timeout g s)) ∧
    (report.result = none ↔ reach < timeout.nanos) ∧
    InForce t.timeout o.timeout timeout ∧ InForce t.pollInterval o.pollInterval interval := by
  intro timeout interval report
  have hforce : InForce t.timeout o.timeout timeout ∧
      InForce t.pollInterval o.pollInterval interval := ⟨inForce_settle .., inForce_settle ..⟩
  rcases t.wait_cases reach index guid o with ⟨hr, hreport⟩ | ⟨hr, hb, hreport⟩ | ⟨hr, hb, -⟩
  · rw [show report = _ from hreport]
    exact ⟨nofun, nofun, Nat.zero_le _, fun h => absurd hr (Nat.not_lt_of_le h), nofun,
      iff_of_true rfl hr, hforce⟩
  · rw [show report = _ from hreport]
    exact ⟨nofun, nofun, Nat.zero_le _, fun _ hu => absurd hb hu.ne_before, nofun,
      iff_of_false nofun (Nat.not_lt_of_le hr), hforce⟩
  have hinterval := t.interval_plan guid o hi
  obtain ⟨n, hn⟩ := t.course_wait index guid o hr hb
  have hlength : report.starts.length ≤ timeout.nanos ⌈/⌉ interval.nanos := by
    have := hn.length_starts_le
    rwa [hinterval] at this
  have hreturns : report.result = none ↔ reach < timeout.nanos :=
    iff_of_false hn.closed.result_ne_none (Nat.not_lt_of_le hr)
  refine ⟨?_, ?_, hlength, ?_, fun g s hs => (hs ▸ hn.closed).timeout_late, hreturns, hforce⟩
  · intro start hmem
    obtain ⟨k, hk, rfl⟩ := hn.mem_starts.1 hmem
    exact hn.inTime hk
  · intro k start next hk hnext
    obtain ⟨-, rfl⟩ := hn.getElem?_starts.1 hk
    obtain ⟨hlt, rfl⟩ := hn.getElem?_starts.1 hnext
    have := Wait.add_interval_le_startOf (hn.inTime hlt)
    rwa [hinterval] at this
  · intro _ hu hopen
    obtain ⟨hlen, hlate, hresult, hfinished⟩ :=
      hn.closed.of_never_decisive (hu.plan t guid) fun k => (hopen k).2
    have hstart := Wait.startOf_of_immediate (w := t.plan guid o) (fun k => (hopen k).1) n
    rw [hinterval] at hstart
    have hmul : timeout.nanos ≤ n * interval.nanos := by
      have hle : timeout.nanos ≤ min (n * interval.nanos) timeout.nanos := hstart ▸ hlate
      exact Nat.le_trans hle (Nat.min_le_left ..)
    refine ⟨Nat.le_antisymm hlength ?_, hresult, ?_⟩
    · rw [ceilDiv_le_iff_le_mul hi, Nat.mul_comm, hlen]
      exact hmul
    · rw [hfinished, hstart]
      exact Nat.min_eq_right hmul

/-- Within 35 seconds four lookups are made, one every ten, and the last pause is cut short. -/
theorem wait_bounded_four :
    let x : Scripted.Index := {}
    let o : WaitOptions := { timeout := some (.ofSeconds 35), pollInterval := some .zero }
    let report := ({} : Tracker).wait Span.clockReach (x.lookups "0x01") "0x01" o
    0 < (settle ({} : Tracker).pollInterval o.pollInterval).nanos ∧
      report.starts.length = 4 ∧ report.finished = (Span.ofSeconds 35).nanos := by
  intro x o report
  have hi : 0 < (settle ({} : Tracker).pollInterval o.pollInterval).nanos := by decide
  obtain ⟨hlen, -, hfinished⟩ :=
    (wait_bounded {} Span.clockReach (x.lookups "0x01") "0x01" o hi).2.2.2.1 (by decide)
      (.inl rfl) fun _ => ⟨rfl, rfl⟩
  rw [Nat.ceilDiv_eq_add_pred_div] at hlen
  exact ⟨hi, hlen.trans (by decide), hfinished⟩

/-- An index that fails with a timeout of its own ends the wait long before the deadline. -/
theorem wait_times_out_early :
    let index : Nat → Lookup := fun _ => ⟨.error (.timeout "0x01" (.ofSeconds 1)), 0⟩
    let report := ({} : Tracker).wait Span.clockReach index "0x01" {}
    report.result = some (.error (.timeout "0x01" (.ofSeconds 1))) ∧
      report.finished < (settle ({} : Tracker).timeout none).nanos := by
  cbv

end Tracker

end TokenBridge.Relay
