import Mathlib.Data.List.Destutter
import TokenBridge.Proofs.Relay.Polling

/-!
# Changes of the status

What a listener is told depends on the answered lookups alone: the statuses of
the messages among them, in order, with equal neighbours told once. An answer
without a message leaves no trace. `heard` lists those statuses, and the changes
of any wait, cancelled or not, are `heard` without its stutter
(`Wait.loop_changes`). A listener that does not cancel could as well be left out
(`Wait.loop_deaf`).
-/

namespace TokenBridge.Relay

def status? : Except RelayError Message → Option Status
  | .ok m => some m.status
  | .error _ => none

/-- The statuses of the messages in the first answers. -/
def heard (index : Nat → Lookup) (n : Nat) : List Status :=
  (List.range n).filterMap fun k => status? (index k).answer

theorem heard_succ (index : Nat → Lookup) (n : Nat) :
    heard index (n + 1) = heard index n ++ (status? (index n).answer).toList := by
  rw [heard, List.range_succ, List.filterMap_append, ← heard]
  cases h : status? (index n).answer <;> simp [h]

/-! ## Lists without stutter -/

section Stutter

variable {α : Type} [DecidableEq α]

theorem getLast?_destutter' (a : α) (l : List α) :
    (l.destutter' (· ≠ ·) a).getLast? = (a :: l).getLast? := by
  induction l generalizing a with
  | nil => rfl
  | cons b l ih =>
    by_cases h : a = b
    · rw [List.destutter'_cons_neg (h := not_not.2 h), ih, h]
      rfl
    · rw [List.destutter'_cons_pos (h := h), List.getLast?_cons, ih]
      simp [List.getLast?_cons]

theorem getLast?_destutter (l : List α) : (l.destutter (· ≠ ·)).getLast? = l.getLast? := by
  cases l with
  | nil => rfl
  | cons a l => exact getLast?_destutter' a l

theorem destutter'_concat (a b : α) (l : List α) :
    (l ++ [b]).destutter' (· ≠ ·) a =
      l.destutter' (· ≠ ·) a ++ if (a :: l).getLast? = some b then [] else [b] := by
  induction l generalizing a with
  | nil => by_cases h : a = b <;> simp [h]
  | cons c l ih =>
    have hlast : (a :: c :: l).getLast? = (c :: l).getLast? := rfl
    rw [List.cons_append, hlast]
    by_cases h : a = c
    · rw [List.destutter'_cons_neg (h := not_not.2 h), List.destutter'_cons_neg (h := not_not.2 h),
        ih, h]
    · rw [List.destutter'_cons_pos (h := h), List.destutter'_cons_pos (h := h), ih,
        List.cons_append]

theorem destutter_concat (l : List α) (b : α) :
    (l ++ [b]).destutter (· ≠ ·) =
      l.destutter (· ≠ ·) ++ if l.getLast? = some b then [] else [b] := by
  cases l with
  | nil => rfl
  | cons a l => exact destutter'_concat a b l

end Stutter

namespace Wait

variable {w : Wait} {index : Nat → Lookup} {k : Nat} {seen : Observer} {told : List Status}

/-! ## What is told -/

theorem last_observed (hs : seen.last = (heard index k).getLast?) :
    (observed seen (index k).answer).last = (heard index (k + 1)).getLast? := by
  rw [heard_succ]
  cases h : (index k).answer with
  | error e => simpa [observed, status?] using hs
  | ok m => simp [observed, Observer.observe, status?]

theorem changed_eq_destutter (hs : seen.last = (heard index k).getLast?)
    (ht : told = (heard index k).destutter (· ≠ ·)) :
    changed told seen (index k).answer = (heard index (k + 1)).destutter (· ≠ ·) := by
  rw [heard_succ, ht]
  cases h : (index k).answer with
  | error e => simp [changed, status?]
  | ok m =>
    rw [status?, Option.toList_some, destutter_concat, changed, Observer.isNews, hs]
    by_cases heq : (heard index k).getLast? = some m.status <;> simp [heq]

/-- From lookup `k` on, a wait that has told the changes so far goes on to tell those of all
answered lookups, whether it is cancelled or not. -/
theorem loop_changes (w : Wait) (index : Nat → Lookup) (k : Nat) (seen : Observer)
    (told : List Status) (start : Nat) (hs : seen.last = (heard index k).getLast?)
    (ht : told = (heard index k).destutter (· ≠ ·)) :
    (w.loop index k seen told start).changes =
      (heard index (k + (w.loop index k seen told start).answered)).destutter (· ≠ ·) := by
  fun_induction w.loop index k seen told start with
  | case1 | case2 => exact ht
  | case3 | case4 | case5 => exact changed_eq_destutter hs ht
  | case6 k seen told start _ answer now _ told' _ _ rest ih =>
    have := ih (last_observed hs) (changed_eq_destutter hs ht)
    rw [show k + (rest.answered + 1) = k + 1 + rest.answered by omega]
    exact this

theorem loop_answered_of_decisive (w : Wait) (index : Nat → Lookup) (k : Nat) (seen : Observer)
    (told : List Status) (start j : Nat) (hj : j < (w.loop index k seen told start).answered)
    (hd : decisive (index (k + j)).answer = true) :
    (w.loop index k seen told start).answered = j + 1 := by
  fun_induction w.loop index k seen told start generalizing j with
  | case1 | case2 => cases hj
  | case3 | case4 | case5 =>
    have : j < 1 := hj
    show 1 = j + 1
    omega
  | case6 k seen told start _ answer now _ told' hstep _ rest ih =>
    cases j with
    | zero =>
      rw [Nat.add_zero] at hd
      rw [step_of_decisive hd] at hstep
      cases hstep
    | succ j =>
      rw [show k + (j + 1) = k + 1 + j by omega] at hd
      exact congrArg (· + 1) (ih j (Nat.lt_of_succ_lt_succ hj) hd)

/-- Every lookup is answered, but for one that a cancellation cuts off. -/
theorem loop_length_starts (w : Wait) (index : Nat → Lookup) (k : Nat) (seen : Observer)
    (told : List Status) (start : Nat) :
    let r := w.loop index k seen told start
    r.starts.length = r.answered ∨
      r.starts.length = r.answered + 1 ∧ r.result = some (.error (.cancelled w.guid)) := by
  fun_induction w.loop index k seen told start with
  | case1 | case3 | case4 | case5 => exact .inl rfl
  | case2 => exact .inr ⟨rfl, rfl⟩
  | case6 _ _ _ _ _ _ _ _ _ _ _ rest ih =>
    rcases ih with hl | ⟨hl, hr⟩
    · exact .inl (congrArg (· + 1) hl)
    · exact .inr ⟨congrArg (· + 1) hl, hr⟩

/-! ## Listeners that do not cancel -/

/-- The wait without regard to its listener. -/
def deaf (w : Wait) : Wait := { w with cancelsAfter := fun _ => false }

@[simp] theorem deaf_timeout : w.deaf.timeout = w.timeout := rfl

@[simp] theorem deaf_guid : w.deaf.guid = w.guid := rfl

@[simp] theorem deaf_wake (now : Nat) : w.deaf.wake now = w.wake now := rfl

@[simp] theorem deaf_cancelledBefore? (t : Nat) :
    w.deaf.cancelledBefore? t = w.cancelledBefore? t := rfl

theorem cancelsAfter_of_step {answer : Except RelayError Message} {news : Bool}
    (h : w.step answer news told = .cancels) : w.cancelsAfter told = true := by
  cases answer with
  | error e => cases hn : e.isNotFound <;> simp [step, hn] at h
  | ok m => cases hs : m.status <;> simp_all [step, Status.verdict]

theorem step_deaf {answer : Except RelayError Message} {news : Bool} {next : Step}
    (h : w.step answer news told = next) (hc : next ≠ .cancels) :
    w.deaf.step answer news told = next := by
  cases answer with
  | error e => exact h
  | ok m =>
    cases hn : news && w.cancelsAfter told with
    | true => cases hs : m.status <;> simp_all [step, Status.verdict, deaf]
    | false => cases hs : m.status <;> simpa [step, Status.verdict, deaf, hs, hn] using h

theorem loop_deaf (w : Wait) (index : Nat → Lookup) (k : Nat) (seen : Observer)
    (told : List Status) (start : Nat)
    (h : ∀ l, l <+: (w.loop index k seen told start).changes → w.cancelsAfter l = false) :
    w.deaf.loop index k seen told start = w.loop index k seen told start := by
  fun_induction w.loop index k seen told start with
  | case1 k seen told start hlate =>
    rw [loop]
    exact dif_pos hlate
  | case2 k seen told start hlate now c hc =>
    rw [loop]
    simp [hlate, now, hc]
  | case3 k seen told start hlate answer now hc told' result hstep =>
    have hdeaf := step_deaf hstep (by simp)
    rw [loop]
    simp [hlate, answer, now, hc, told', hdeaf]
  | case4 k seen told start hlate answer now hc told' hstep =>
    -- The listener would have cancelled on all that it was told.
    cases (cancelsAfter_of_step hstep).symm.trans (h told' List.prefix_rfl)
  | case5 k seen told start hlate answer now hc told' hstep c hc' =>
    have hdeaf := step_deaf hstep (by simp)
    rw [loop]
    simp [hlate, answer, now, hc, told', hdeaf, hc']
  | case6 k seen told start hlate answer now hc told' hstep hc' rest ih =>
    have hdeaf := step_deaf hstep (by simp)
    rw [loop]
    simp [hlate, answer, now, hc, told', hdeaf, hc', rest, ← ih h]

end Wait

/-! ## Whole waits -/

/-- The listener does not cancel a wait with these changes: there is nothing to cancel it with, or
the listener lets it go on whenever it is told of one. -/
def WaitOptions.Quiet (o : WaitOptions) (changes : List Status) : Prop :=
  o.cancellation = none ∨
  ∀ listener ∈ o.listener, ∀ told, told <+: changes → listener told = false

theorem WaitOptions.Quiet.cancelsAfter {o : WaitOptions} {changes told : List Status}
    (h : o.Quiet changes) (t : Tracker) (guid : String) (ht : told <+: changes) :
    (t.plan guid o).cancelsAfter told = false := by
  rcases h with hc | hl
  · simp [Tracker.plan, hc]
  · cases ho : o.listener with
    | none => simp [Tracker.plan, ho]
    | some listener => simp [Tracker.plan, ho, hl listener ho told ht]

theorem Tracker.plan_without_listener (t : Tracker) (guid : String) (o : WaitOptions) :
    t.plan guid { o with listener := none } = (t.plan guid o).deaf := by
  simp [plan, Wait.deaf, WaitOptions.cancelInstant?]

/-- A wait tells the statuses of the messages it was answered with, up to the decisive one and
equal neighbours once. The last of them is told before the wait ends. A listener that does not
cancel makes no difference. -/
theorem Tracker.wait_tells_changes (t : Tracker) (reach : Nat) (index : Nat → Lookup)
    (guid : String) (o : WaitOptions) :
    let report := t.wait reach index guid o
    report.changes = (heard index report.answered).destutter (· ≠ ·) ∧
    (report.starts.length = report.answered ∨
      report.starts.length = report.answered + 1 ∧
        report.result = some (.error (.cancelled guid))) ∧
    (∀ k < report.answered, decisive (index k).answer = true → report.answered = k + 1) ∧
    (∀ k m, report.answered = k + 1 → (index k).answer = .ok m →
      report.changes.getLast? = some m.status) ∧
    (o.Quiet report.changes →
      t.wait reach index guid { o with listener := none } = report) := by
  intro report
  rcases t.wait_cases reach index guid o with ⟨hr, hreport⟩ | ⟨hr, hb, hreport⟩ | ⟨hr, hb, hreport⟩
  · rw [show report = _ from hreport]
    exact ⟨rfl, .inl rfl, nofun, nofun, fun _ => t.wait_out_of_reach index guid _ hr⟩
  · rw [show report = _ from hreport]
    exact ⟨rfl, .inl rfl, nofun, nofun, fun _ => t.wait_before index guid _ hr hb⟩
  replace hreport : report = _ := hreport
  have hchanges : report.changes = (heard index report.answered).destutter (· ≠ ·) := by
    rw [hreport]
    simpa using (t.plan guid o).loop_changes index 0 {} [] 0 rfl rfl
  refine ⟨hchanges, ?_, ?_, ?_, fun hq => ?_⟩
  · rw [hreport]
    exact (t.plan guid o).loop_length_starts index 0 {} [] 0
  · intro k hk hd
    rw [hreport] at hk ⊢
    exact (t.plan guid o).loop_answered_of_decisive index 0 {} [] 0 k hk (by rwa [Nat.zero_add])
  · intro k m hk hm
    rw [hchanges, hk, getLast?_destutter, heard_succ, hm]
    simp [status?]
  · rw [hreport] at hq ⊢
    rw [t.wait_eq_loop index guid { o with listener := none } hr hb, plan_without_listener]
    exact (t.plan guid o).loop_deaf index 0 {} [] 0 fun _ => hq.cancelsAfter t guid

/-- A status is told again when it comes back, and not after a gap; this listener could as well be
left out. -/
theorem Tracker.wait_tells_again :
    let x : Scripted.Index :=
      { script := [.status .inflight, .notFound, .status .inflight, .status .confirming,
          .status .inflight, .status .delivered] }
    let o : WaitOptions := { listener := some fun _ => false, cancellation := some .never }
    let report := ({} : Tracker).wait Number.Span.clockReach (x.lookups "0x01") "0x01" o
    report.changes = [.inflight, .confirming, .inflight, .delivered] ∧ o.Quiet report.changes ∧
      ({} : Tracker).wait Number.Span.clockReach (x.lookups "0x01") "0x01"
        { o with listener := none } = report := by
  intro x o report
  have hquiet : o.Quiet report.changes := .inr (by rintro _ ⟨⟩ _ _; rfl)
  have htold : (({} : Tracker).wait Number.Span.clockReach (x.lookups "0x01") "0x01" o).changes =
      [.inflight, .confirming, .inflight, .delivered] := by
    decide +kernel
  obtain ⟨-, -, -, -, hdeaf⟩ :=
    wait_tells_changes {} Number.Span.clockReach (x.lookups "0x01") "0x01" o
  exact ⟨htold, hquiet, hdeaf hquiet⟩

end TokenBridge.Relay
