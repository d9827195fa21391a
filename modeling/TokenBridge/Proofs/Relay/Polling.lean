import TokenBridge.Relay.Tracker
import TokenBridge.Scripted.Index

/-!
# Polling

A wait that nobody cancels looks a message up at the instants `lookupStart`
until the first decisive answer, or until an instant at or after the deadline.
`Polls w index k n r` says that of the part of a wait from lookup `k` on, which
makes `n` lookups (`Wait.loop_polls`); of two such parts the number of lookups
and the result are the same. `Tracker.wait_first_decisive` reads the law of a
whole wait off it.
-/

namespace TokenBridge.Relay

/-- The answer ends a wait: it is a message with a final status, or a failure other than "not
indexed yet". -/
def decisive : Except RelayError Message → Bool
  | .ok m => m.status.isFinal
  | .error e => !e.isNotFound

/-- The result of a wait for a message that a decisive answer ends. -/
def resultOf (guid : String) : Except RelayError Message → Except RelayError Message
  | .error e => .error e
  | .ok m =>
    match m.status with
    | .failed => .error (.messageFailed guid)
    | .blocked => .error (.messageBlocked guid)
    | _ => .ok m

/-- The lookup is the first with a decisive answer. -/
def FirstDecisive (index : Nat → Lookup) (k : Nat) : Prop :=
  (∀ j < k, decisive (index j).answer = false) ∧ decisive (index k).answer = true

/-- The instant at which a lookup starts if none before it is decisive: each is followed by a pause
of the interval, or of what is left until the timeout. -/
def lookupStart (timeout interval : Nat) (index : Nat → Lookup) : Nat → Nat
  | 0 => 0
  | k + 1 =>
    let answered := lookupStart timeout interval index k + (index k).duration
    answered + min interval (timeout - answered)

theorem lookupStart_mono (timeout interval : Nat) (index : Nat → Lookup) {j k : Nat} (h : j ≤ k) :
    lookupStart timeout interval index j ≤ lookupStart timeout interval index k := by
  induction h with
  | refl => exact Nat.le_refl _
  | step _ ih =>
    refine Nat.le_trans ih ?_
    simp only [lookupStart]
    omega

namespace Wait

variable {w : Wait} {index : Nat → Lookup}

/-- Nobody cancels the wait, from outside or as its listener. -/
structure Undisturbed (w : Wait) : Prop where
  outside : w.cancelAt = none
  listener : ∀ told, w.cancelsAfter told = false

theorem Undisturbed.cancelledBefore? (hw : w.Undisturbed) (t : Nat) :
    w.cancelledBefore? t = none := by
  rw [Wait.cancelledBefore?, hw.outside]
  rfl

theorem step_of_decisive {answer : Except RelayError Message} (h : decisive answer = true)
    (news : Bool) (told : List Status) :
    w.step answer news told = .ends (resultOf w.guid answer) := by
  cases answer with
  | error e =>
    simp only [decisive, Bool.not_eq_true'] at h
    simp [step, resultOf, h]
  | ok m =>
    cases hs : m.status <;>
      simp_all [decisive, Status.isFinal, step, Status.verdict, resultOf]

theorem Undisturbed.step_of_not_decisive (hw : w.Undisturbed)
    {answer : Except RelayError Message} (h : decisive answer = false) (news : Bool)
    (told : List Status) : w.step answer news told = .pauses := by
  cases answer with
  | error e =>
    simp only [decisive, Bool.not_eq_false'] at h
    simp [step, h]
  | ok m =>
    cases hs : m.status <;>
      simp_all [decisive, Status.isFinal, step, Status.verdict, hw.listener]

/-- From lookup `k` on, the wait makes `n` lookups. The last of them is the first that is decisive,
or none is and the next would start too late. -/
structure Polls (w : Wait) (index : Nat → Lookup) (k n : Nat) (r : WaitReport) : Prop where
  starts : r.starts = (List.range' k n).map (lookupStart w.timeout.nanos w.interval index)
  answered : r.answered = n
  early : ∀ j < n, lookupStart w.timeout.nanos w.interval index (k + j) < w.timeout.nanos
  ended :
    (∃ m, n = m + 1 ∧ (∀ j < m, decisive (index (k + j)).answer = false) ∧
      decisive (index (k + m)).answer = true ∧
      r.result = some (resultOf w.guid (index (k + m)).answer)) ∨
    ((∀ j < n, decisive (index (k + j)).answer = false) ∧
      w.timeout.nanos ≤ lookupStart w.timeout.nanos w.interval index (k + n) ∧
      r.result = some (.error (.timeout w.guid w.timeout)))

theorem Polls.cons {k n : Nat} {r r' : WaitReport} (h : Polls w index (k + 1) n r)
    (hk : decisive (index k).answer = false)
    (hs : lookupStart w.timeout.nanos w.interval index k < w.timeout.nanos)
    (hstarts : r'.starts = lookupStart w.timeout.nanos w.interval index k :: r.starts)
    (hanswered : r'.answered = r.answered + 1) (hresult : r'.result = r.result) :
    Polls w index k (n + 1) r' where
  starts := by rw [hstarts, h.starts, List.range'_succ, List.map_cons]
  answered := by rw [hanswered, h.answered]
  early j hj := by
    cases j with
    | zero => exact hs
    | succ j =>
      have := h.early j (by omega)
      rwa [show k + (j + 1) = k + 1 + j by omega]
  ended := by
    have hopen : ∀ m, (∀ j < m, decisive (index (k + 1 + j)).answer = false) →
        ∀ j < m + 1, decisive (index (k + j)).answer = false := by
      intro m hm j hj
      cases j with
      | zero => exact hk
      | succ j => rw [show k + (j + 1) = k + 1 + j by omega]; exact hm j (by omega)
    rcases h.ended with ⟨m, rfl, hm, hd, hr⟩ | ⟨hn, ht, hr⟩
    · rw [show k + 1 + m = k + (m + 1) by omega] at hd hr
      exact .inl ⟨m + 1, rfl, hopen m hm, hd, hresult.trans hr⟩
    · rw [show k + 1 + n = k + (n + 1) by omega] at ht
      exact .inr ⟨hopen n hn, ht, hresult.trans hr⟩

theorem loop_polls (hw : w.Undisturbed) (index : Nat → Lookup) (k : Nat) (seen : Observer)
    (told : List Status) : ∃ n, Polls w index k n
      (w.loop index k seen told (lookupStart w.timeout.nanos w.interval index k)) := by
  generalize hs : lookupStart w.timeout.nanos w.interval index k = start
  fun_induction w.loop index k seen told start with
  | case1 k seen told start hlate =>
    refine ⟨0, rfl, rfl, nofun, .inr ⟨nofun, ?_, rfl⟩⟩
    rwa [Nat.add_zero, hs]
  | case2 _ _ _ _ _ _ _ hc =>
    rw [hw.cancelledBefore?] at hc
    cases hc
  | case3 k seen told start hlate answer now hc told' result hstep =>
    have hd : decisive answer = true := by
      cases hd : decisive answer with
      | true => rfl
      | false => rw [hw.step_of_not_decisive hd] at hstep; cases hstep
    rw [step_of_decisive hd] at hstep
    cases hstep
    refine ⟨1, ?_, rfl, ?_, .inl ⟨0, rfl, nofun, hd, rfl⟩⟩
    · simp [hs]
    · intro j hj
      rw [show k + j = k by omega, hs]
      omega
  | case4 k seen told start _ answer _ _ _ hstep =>
    cases hd : decisive answer with
    | true => rw [step_of_decisive hd] at hstep; cases hstep
    | false => rw [hw.step_of_not_decisive hd] at hstep; cases hstep
  | case5 _ _ _ _ _ _ _ _ _ _ _ hc =>
    rw [hw.cancelledBefore?] at hc
    cases hc
  | case6 k seen told start hlate answer now hc told' hstep hc' rest ih =>
    have hd : decisive answer = false := by
      cases hd : decisive answer with
      | false => rfl
      | true => rw [step_of_decisive hd] at hstep; cases hstep
    obtain ⟨n, hn⟩ := ih (by rw [lookupStart, hs]; rfl)
    subst hs
    exact ⟨n + 1, hn.cons hd (Nat.lt_of_not_le hlate) rfl rfl rfl⟩

/-- A whole wait ends with the first decisive answer, which was asked for in time, or makes lookups
without a decisive answer until the next would start too late. -/
theorem Polls.cases {n : Nat} {r : WaitReport} (h : Polls w index 0 n r) :
    (∃ m, n = m + 1 ∧ FirstDecisive index m ∧
      lookupStart w.timeout.nanos w.interval index m < w.timeout.nanos ∧
      r.result = some (resultOf w.guid (index m).answer)) ∨
    ((∀ j < n, decisive (index j).answer = false) ∧
      (∀ k, FirstDecisive index k →
        w.timeout.nanos ≤ lookupStart w.timeout.nanos w.interval index k) ∧
      r.result = some (.error (.timeout w.guid w.timeout))) := by
  have hearly := h.early
  have hended := h.ended
  simp only [Nat.zero_add] at hearly hended
  rcases hended with ⟨m, rfl, hm, hd, hr⟩ | ⟨hn, ht, hr⟩
  · exact .inl ⟨m, rfl, ⟨hm, hd⟩, hearly m (Nat.lt_succ_self m), hr⟩
  · refine .inr ⟨hn, fun k hk => ?_, hr⟩
    rcases Nat.lt_or_ge k n with hlt | hge
    · have := hk.2
      rw [hn k hlt] at this
      cases this
    · exact Nat.le_trans ht (lookupStart_mono _ _ _ hge)

end Wait

theorem FirstDecisive.eq {index : Nat → Lookup} {j k : Nat} (hj : FirstDecisive index j)
    (hk : FirstDecisive index k) : j = k := by
  rcases Nat.lt_trichotomy j k with hlt | heq | hlt
  · have := hj.2
    rw [hk.1 j hlt] at this
    cases this
  · exact heq
  · have := hk.2
    rw [hj.1 k hlt] at this
    cases this

theorem resultOf_eq_ok {guid : String} {answer : Except RelayError Message} {m : Message}
    (h : resultOf guid answer = .ok m) (hd : decisive answer = true) :
    answer = .ok m ∧ m.status = .delivered := by
  cases answer with
  | error e => cases h
  | ok m' => cases hs : m'.status <;> simp_all [resultOf, decisive, Status.isFinal]

/-! ## Whole waits -/

/-- A wait whose deadline the clock does not reach looks nothing up and has no result. -/
theorem Tracker.wait_out_of_reach (t : Tracker) {reach : Nat} (index : Nat → Lookup)
    (guid : String) (o : WaitOptions) (hr : reach < (settle t.timeout o.timeout).nanos) :
    t.wait reach index guid o = ⟨none, 0, [], 0, []⟩ := if_pos hr

theorem Tracker.wait_eq_loop (t : Tracker) {reach : Nat} (index : Nat → Lookup) (guid : String)
    (o : WaitOptions) (hr : (settle t.timeout o.timeout).nanos ≤ reach)
    (hb : o.cancellation ≠ some .before) :
    t.wait reach index guid o = (t.plan guid o).loop index 0 {} [] 0 :=
  (if_neg (Nat.not_lt.2 hr)).trans (if_neg hb)

/-- A wait with a deadline that is cancelled before it begins does nothing. -/
theorem Tracker.wait_before (t : Tracker) {reach : Nat} (index : Nat → Lookup) (guid : String)
    (o : WaitOptions) (hr : (settle t.timeout o.timeout).nanos ≤ reach)
    (hb : o.cancellation = some .before) :
    t.wait reach index guid o = ⟨some (.error (.cancelled guid)), 0, [], 0, []⟩ :=
  (if_neg (Nat.not_lt.2 hr)).trans (if_pos hb)

theorem Tracker.wait_cases (t : Tracker) (reach : Nat) (index : Nat → Lookup) (guid : String)
    (o : WaitOptions) :
    (reach < (settle t.timeout o.timeout).nanos ∧
      t.wait reach index guid o = ⟨none, 0, [], 0, []⟩) ∨
    ((settle t.timeout o.timeout).nanos ≤ reach ∧ o.cancellation = some .before ∧
      t.wait reach index guid o = ⟨some (.error (.cancelled guid)), 0, [], 0, []⟩) ∨
    ((settle t.timeout o.timeout).nanos ≤ reach ∧ o.cancellation ≠ some .before ∧
      t.wait reach index guid o = (t.plan guid o).loop index 0 {} [] 0) := by
  rcases Nat.lt_or_ge reach (settle t.timeout o.timeout).nanos with hr | hr
  · exact .inl ⟨hr, t.wait_out_of_reach index guid o hr⟩
  by_cases hb : o.cancellation = some .before
  · exact .inr (.inl ⟨hr, hb, t.wait_before index guid o hr hb⟩)
  · exact .inr (.inr ⟨hr, hb, t.wait_eq_loop index guid o hr hb⟩)

/-- A wait with these options is not cancelled: it cannot be, or nobody does. -/
def WaitOptions.Undisturbed (o : WaitOptions) : Prop :=
  o.cancellation = none ∨
  o.cancellation = some .never ∧ ∀ listener ∈ o.listener, ∀ told, listener told = false

theorem WaitOptions.Undisturbed.ne_before {o : WaitOptions} (h : o.Undisturbed) :
    o.cancellation ≠ some .before := by
  rcases h with h | ⟨h, -⟩ <;> simp [h]

theorem WaitOptions.Undisturbed.plan {o : WaitOptions} (h : o.Undisturbed) (t : Tracker)
    (guid : String) : (t.plan guid o).Undisturbed := by
  rcases h with hc | ⟨hc, hl⟩
  · exact ⟨by simp [Tracker.plan, WaitOptions.cancelInstant?, hc], fun _ => by
      simp [Tracker.plan, hc]⟩
  · refine ⟨by simp [Tracker.plan, WaitOptions.cancelInstant?, hc], fun told => ?_⟩
    cases ho : o.listener with
    | none => simp [Tracker.plan, ho]
    | some listener => simp [Tracker.plan, ho, hl listener ho told]

/-- A wait that is not cancelled and has a deadline ends with the first decisive answer if that is
asked for before the deadline, and with a timeout if it is not; there is no lookup after it. -/
theorem Tracker.wait_first_decisive (t : Tracker) (reach : Nat) (index : Nat → Lookup)
    (guid : String) (o : WaitOptions) (hr : (settle t.timeout o.timeout).nanos ≤ reach)
    (hc : o.Undisturbed) (hi : 0 < (settle t.pollInterval o.pollInterval).nanos) :
    let timeout := settle t.timeout o.timeout
    let start := lookupStart timeout.nanos (settle t.pollInterval o.pollInterval).nanos index
    let report := t.wait reach index guid o
    report.starts = (List.range report.answered).map start ∧
    (∀ k, FirstDecisive index k → start k < timeout.nanos →
      report.result = some (resultOf guid (index k).answer) ∧ report.answered = k + 1) ∧
    ((∀ k, FirstDecisive index k → timeout.nanos ≤ start k) →
      report.result = some (.error (.timeout guid timeout))) ∧
    (∀ m, report.result = some (.ok m) → m.status = .delivered ∧
      ∃ k, report.answered = k + 1 ∧ (index k).answer = .ok m) ∧
    ∀ k < report.answered, decisive (index k).answer = true → report.answered = k + 1 := by
  intro timeout start report
  have hinterval : (t.plan guid o).interval = (settle t.pollInterval o.pollInterval).nanos := by
    simp only [plan]
    omega
  obtain ⟨n, hn⟩ := Wait.loop_polls (hc.plan t guid) index 0 {} []
  have hreport : report = (t.plan guid o).loop index 0 {} [] 0 :=
    t.wait_eq_loop index guid o hr hc.ne_before
  rw [lookupStart, ← hreport] at hn
  have hcases := hn.cases
  have hstarts := hn.starts
  rw [hinterval] at hcases hstarts
  rw [hn.answered]
  refine ⟨by rw [List.range_eq_range']; exact hstarts, ?_⟩
  rcases hcases with ⟨m, rfl, hm, hs, hresult⟩ | ⟨hopen, hlate, hresult⟩
  · refine ⟨?_, ?_, ?_, ?_⟩
    · intro k hk _
      obtain rfl := hm.eq hk
      exact ⟨hresult, rfl⟩
    · intro h
      exact absurd (h m hm) (Nat.not_le_of_lt hs)
    · intro msg hmsg
      obtain ⟨ha, hd⟩ := resultOf_eq_ok (Option.some.inj (hresult.symm.trans hmsg)) hm.2
      exact ⟨hd, m, rfl, ha⟩
    · intro k hk hd
      rcases Nat.lt_or_ge k m with hlt | hge
      · rw [hm.1 k hlt] at hd; cases hd
      · omega
  · refine ⟨?_, fun _ => hresult, ?_, ?_⟩
    · intro k hk hs
      exact absurd (hlate k hk) (Nat.not_le_of_lt hs)
    · intro msg hmsg
      rw [hresult] at hmsg
      cases hmsg
    · intro k hk hd
      rw [hopen k hk] at hd
      cases hd

/-- A message that is not indexed, then in flight, then delivered is found at the third lookup,
though the second takes longer than the poll interval. -/
theorem Tracker.wait_delivered_third :
    let x : Scripted.Index :=
      { script := [.notFound, .status .inflight, .status .delivered]
        delays := [.ofSeconds 1, .ofSeconds 30] }
    let report := ({} : Tracker).wait Number.Span.clockReach (x.lookups "0x01") "0x01" {}
    (0 < (settle ({} : Tracker).pollInterval none).nanos ∧
      FirstDecisive (x.lookups "0x01") 2) ∧
    report.result = some (.ok (Scripted.message "0x01" .delivered)) ∧ report.answered = 3 := by
  intro x report
  have hi : 0 < (settle ({} : Tracker).pollInterval none).nanos := by decide
  have hk : FirstDecisive (x.lookups "0x01") 2 := ⟨by decide, rfl⟩
  exact ⟨⟨hi, hk⟩,
    (wait_first_decisive {} Number.Span.clockReach (x.lookups "0x01") "0x01" {} (by decide)
      (.inl rfl) hi).2.1 2 hk (by decide)⟩

/-- A message that is delivered already is not reported where the clock has no instant for the
longest of all timeouts. -/
theorem Tracker.delivered_out_of_reach :
    let x : Scripted.Index := { script := [.status .delivered] }
    let o : WaitOptions := { timeout := some .greatest }
    let report := ({} : Tracker).wait Number.Span.clockReach (x.lookups "0x01") "0x01" o
    o.Undisturbed ∧ 0 < (settle ({} : Tracker).timeout o.timeout).nanos ∧
      0 < (settle ({} : Tracker).pollInterval o.pollInterval).nanos ∧
      FirstDecisive (x.lookups "0x01") 0 ∧ report.answered = 0 ∧
      report.result ≠ some (resultOf "0x01" (x.lookups "0x01" 0).answer) := by
  intro x o report
  have hreport : report = ⟨none, 0, [], 0, []⟩ := wait_out_of_reach {} _ _ o (by decide)
  rw [hreport]
  exact ⟨.inl rfl, by decide, by decide, ⟨nofun, rfl⟩, rfl, nofun⟩

end TokenBridge.Relay
