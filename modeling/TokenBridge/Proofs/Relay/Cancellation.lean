import TokenBridge.Proofs.Relay.Course

/-!
# Cancelled waits

A wait that somebody cancels from outside is compared with the same wait left
alone: cancelled before that one is over it is over at once, whether a lookup or
a pause was under way, and cancelled later it is the same wait
(`Wait.Course.of_cancelledAt`). A listener that cancels ends the wait with the
answer that it is told of, unless that answer ends it anyway
(`Wait.Closes.of_listener`).
-/

namespace TokenBridge.Relay

open Number (Span)

attribute [ext] WaitReport

namespace Wait

variable {w : Wait} {index : Nat → Lookup} {k n n' c begun answered finished : Nat}
  {begun' answered' finished' : Nat} {r r' : WaitReport}
  {result result' : Option (Except RelayError Message)}
  {told : List Status}

/-! ## Cancelled from outside -/

/-- The wait that is cancelled from outside at an instant. -/
def cancelledAt (w : Wait) (c : Nat) : Wait := { w with cancelAt := some c }

theorem GoesOn.of_cancelledAt (h : (w.cancelledAt c).GoesOn index k) (hw : w.cancelAt = none) :
    w.GoesOn index k :=
  ⟨h.inTime, h.pauses, by simp [hw]⟩

theorem Closes.unique (h : w.Closes index n begun answered result finished)
    (h' : w.Closes index n begun' answered' result' finished') (hw : w.cancelAt = none) :
    begun = begun' ∧ answered = answered' ∧ result = result' ∧ finished = finished' := by
  cases h with
  | cutOff _ hcancel | awoken _ hcancel => cases hw.symm.trans hcancel
  | late hlate =>
    cases h' with
    | late => exact ⟨rfl, rfl, rfl, rfl⟩
    | cutOff htime | ended htime | calledOff htime | awoken htime =>
      exact absurd htime (Nat.not_lt_of_le hlate)
  | ended htime _ hstep =>
    cases h' with
    | late hlate => exact absurd htime (Nat.not_lt_of_le hlate)
    | cutOff _ hcancel | awoken _ hcancel => cases hw.symm.trans hcancel
    | ended _ _ hstep' =>
      cases hstep.symm.trans hstep'
      exact ⟨rfl, rfl, rfl, rfl⟩
    | calledOff _ _ hstep' => cases hstep.symm.trans hstep'
  | calledOff htime _ hstep =>
    cases h' with
    | late hlate => exact absurd htime (Nat.not_lt_of_le hlate)
    | cutOff _ hcancel | awoken _ hcancel => cases hw.symm.trans hcancel
    | ended _ _ hstep' => cases hstep.symm.trans hstep'
    | calledOff => exact ⟨rfl, rfl, rfl, rfl⟩

theorem Closes.of_cancelledAt (h : (w.cancelledAt c).Closes index n begun answered result finished)
    (hstart : w.startOf index n ≤ c) (hw : w.cancelAt = none) :
    w.Closes index n begun answered result finished ∧ finished ≤ c ∨
      result = some (.error (.cancelled w.guid)) ∧ finished = c ∧
        w.startOf index n < w.timeout.nanos ∧
        (c < w.arrival index n ∨ w.GoesOn index n ∧ c ≤ w.startOf index (n + 1)) := by
  have hnone : ∀ c' ∈ w.cancelAt, w.arrival index n ≤ c' := by simp [hw]
  cases h with
  | late hlate => exact .inl ⟨.late hlate, hstart⟩
  | cutOff htime hcancel hlt =>
    cases hcancel
    exact .inr ⟨rfl, Nat.max_eq_left hstart, htime, .inl hlt⟩
  | ended htime hle hstep => exact .inl ⟨.ended htime hnone hstep, hle c rfl⟩
  | calledOff htime hle hstep => exact .inl ⟨.calledOff htime hnone hstep, hle c rfl⟩
  | awoken htime hcancel _ hle hstep =>
    cases hcancel
    exact .inr ⟨rfl, rfl, htime, .inr ⟨⟨htime, hstep, by simp [hw]⟩, hle⟩⟩

theorem Course.startOf_le_cancelAt (h : Course w index 0 n r) (hc : w.cancelAt = some c) :
    w.startOf index n ≤ c := by
  cases n with
  | zero => exact Nat.zero_le c
  | succ n =>
    exact Nat.le_of_lt ((h.goesOn_of_lt (Nat.lt_succ_self n)).uncancelled c hc)

/-- The cancelled wait beside the wait left alone: it is the same if that one is over by the
cancellation, and else it is over with the cancellation. -/
theorem Course.of_cancelledAt (h : Course w index 0 n r)
    (h' : Course (w.cancelledAt c) index 0 n' r') (hw : w.cancelAt = none) :
    (r'.starts = r.starts ∧ r'.answered = r.answered ∧ r'.result = r.result ∧
      r'.finished = r.finished ∧ r.finished ≤ c) ∨
    r'.result = some (.error (.cancelled w.guid)) ∧ r'.finished = c ∧ c ≤ r.finished := by
  have hgo : ∀ j < n', w.GoesOn index j := fun j hj =>
    (h'.goesOn_of_lt hj).of_cancelledAt hw
  rcases h'.closed.of_cancelledAt (h'.startOf_le_cancelAt rfl) hw with
    ⟨hsame, hle⟩ | ⟨hresult, hfinished, htime, hover⟩
  · have hn : n = n' := by
      refine Nat.le_antisymm (Nat.le_of_not_lt fun hlt => ?_) (h.le_of_goesOn hgo)
      exact hsame.not_goesOn (h.goesOn_of_lt hlt)
    subst hn
    obtain ⟨hlen, hanswered, hresult, hfinished⟩ := hsame.unique h.closed hw
    refine .inl ⟨?_, hanswered, hresult, hfinished, hfinished ▸ hle⟩
    rw [h'.starts_eq, h.starts_eq, hlen]
    rfl
  · refine .inr ⟨hresult, hfinished, ?_⟩
    rcases hover with hlt | ⟨hgoes, hle⟩
    · have harrival := h.closed.arrival_le_finished hw (h.lt_length_starts hgo htime)
      omega
    · refine Nat.le_trans hle (h.startOf_le_finished hw fun j hj => ?_)
      rcases Nat.lt_or_eq_of_le (Nat.le_of_lt_succ hj) with hlt | rfl
      · exact hgo j hlt
      · exact hgoes

/-- No lookup is begun once the wait is cancelled; the first starts with the wait. -/
theorem Course.start_lt_cancelAt (h : Course w index 0 n r) (hc : w.cancelAt = some c)
    (hk : k < r.starts.length) : w.startOf index k = 0 ∨ w.startOf index k < c := by
  cases k with
  | zero => exact .inl rfl
  | succ k => exact .inr ((h.goesOn_of_succ_lt hk).uncancelled c hc)

/-- Of the lookups begun, those are answered whose answer arrives by the cancellation. -/
theorem Closes.lt_answered_iff (h : w.Closes index n begun answered result finished)
    (hc : w.cancelAt = some c) (hbefore : k < n → w.arrival index k ≤ c) (hk : k < begun) :
    k < answered ↔ w.arrival index k ≤ c := by
  cases h with
  | late => exact ⟨hbefore, fun _ => hk⟩
  | cutOff _ hcancel hlt =>
    cases hc.symm.trans hcancel
    refine ⟨hbefore, fun hle => ?_⟩
    rcases Nat.lt_or_eq_of_le (Nat.le_of_lt_succ hk) with hlt' | rfl
    · exact hlt'
    · exact absurd hle (Nat.not_le_of_lt hlt)
  | ended _ hle | calledOff _ hle =>
    refine ⟨fun _ => ?_, fun _ => hk⟩
    rcases Nat.lt_or_eq_of_le (Nat.le_of_lt_succ hk) with hlt | rfl
    · exact hbefore hlt
    · exact hle c hc
  | awoken _ hcancel hle =>
    cases hc.symm.trans hcancel
    refine ⟨fun _ => ?_, fun _ => hk⟩
    rcases Nat.lt_or_eq_of_le (Nat.le_of_lt_succ hk) with hlt | rfl
    · exact hbefore hlt
    · exact hle

theorem Course.lt_answered_iff (h : Course w index 0 n r) (hc : w.cancelAt = some c)
    (hk : k < r.starts.length) : k < r.answered ↔ w.arrival index k ≤ c := by
  refine h.closed.lt_answered_iff hc (fun hlt => ?_) hk
  have hnext := (h.goesOn_of_lt hlt).uncancelled c hc
  exact Nat.le_trans arrival_le_startOf_succ (Nat.le_of_lt hnext)

/-! ## Cancelled by the listener -/

theorem stepAt_of_cancelsAfter {m : Message} (ha : (index k).answer = .ok m)
    (hnews : (heard index k).getLast? ≠ some m.status) (hf : m.status.isFinal = false)
    (hc : w.cancelsAfter (tellings index (k + 1)) = true) : w.stepAt index k = .cancels := by
  have hisNews : isNews ⟨(heard index k).getLast?⟩ (index k).answer = true := by
    simpa [ha, isNews, Observer.isNews] using hnews
  rw [stepAt, hisNews, ha]
  cases hs : m.status <;> simp_all [step, Status.verdict, Status.isFinal]

/-- Changes on which the listener cancels were told before an answer, or it is told last. -/
theorem prefix_tellings_succ (hl : told <+: tellings index (k + 1))
    (hc : w.cancelsAfter told = true) : told <+: tellings index k ∨
      told = tellings index (k + 1) ∧ ∃ m, (index k).answer = .ok m ∧
        told.getLast? = some m.status ∧
          (m.status.isFinal = false → w.stepAt index k = .cancels) := by
  rcases tellings_succ index k with heq | ⟨m, ha, hnews, heq⟩
  · exact .inl (heq ▸ hl)
  rw [heq] at hl
  rcases List.prefix_concat_iff.1 hl with rfl | hl
  · refine .inr ⟨heq.symm, m, ha, List.getLast?_concat, fun hf => ?_⟩
    exact stepAt_of_cancelsAfter ha hnews hf (heq ▸ hc)
  · exact .inl hl

theorem eq_nil_of_cancelsAfter (h : ∀ j < n, w.GoesOn index j) (hl : told <+: tellings index n)
    (hc : w.cancelsAfter told = true) : told = [] := by
  induction n with
  | zero => exact List.prefix_nil.1 hl
  | succ n ih =>
    have hpauses := (h n (Nat.lt_succ_self n)).pauses
    rcases prefix_tellings_succ hl hc with hl | ⟨-, m, ha, -, hcancels⟩
    · exact ih (fun j hj => h j (Nat.lt_succ_of_lt hj)) hl
    · cases hf : m.status.isFinal with
      | true =>
        have hd : decisive (index n).answer = true := by rw [ha]; exact hf
        cases (stepAt_of_decisive hd).symm.trans hpauses
      | false => cases (hcancels hf).symm.trans hpauses

/-- A listener that cancels on a status that is not final is told nothing more, and the wait is
over with the answer. -/
theorem Closes.of_listener {s : Status} (h : w.Closes index n begun answered result finished)
    (hgo : ∀ j < n, w.GoesOn index j) (hl : told <+: tellings index answered)
    (hc : w.cancelsAfter told = true) (hs : told.getLast? = some s) (hf : s.isFinal = false) :
    told = tellings index answered ∧ result = some (.error (.cancelled w.guid)) ∧
      ∃ k, answered = k + 1 ∧ begun = k + 1 ∧ finished = w.arrival index k := by
  have hbefore : ¬ told <+: tellings index n := by
    intro hl
    rw [eq_nil_of_cancelsAfter hgo hl hc] at hs
    cases hs
  have hat : told <+: tellings index (n + 1) →
      told = tellings index (n + 1) ∧ w.stepAt index n = .cancels := by
    intro hl
    rcases prefix_tellings_succ hl hc with hl | ⟨heq, m, -, hm, hcancels⟩
    · exact absurd hl hbefore
    · cases hs.symm.trans hm
      exact ⟨heq, hcancels hf⟩
  cases h with
  | late | cutOff => exact absurd hl hbefore
  | ended _ _ hstep => cases (hat hl).2.symm.trans hstep
  | calledOff => exact ⟨(hat hl).1, rfl, n, rfl, rfl, rfl⟩
  | awoken _ _ _ _ hstep => cases (hat hl).2.symm.trans hstep

theorem Closes.of_decisive (h : w.Closes index n begun (k + 1) result finished)
    (hgo : ∀ j < n, w.GoesOn index j) (hd : decisive (index k).answer = true) :
    result = some (resultOf w.guid (index k).answer) ∧ begun = k + 1 ∧
      finished = w.arrival index k := by
  have hends := stepAt_of_decisive (w := w) hd
  have hbefore : ¬ k < n := fun hlt => by cases hends.symm.trans (hgo k hlt).pauses
  cases h with
  | late | cutOff => exact absurd (Nat.lt_succ_self k) hbefore
  | ended _ _ hstep =>
    cases hends.symm.trans hstep
    exact ⟨rfl, rfl, rfl⟩
  | calledOff _ _ hstep | awoken _ _ _ _ hstep => cases hends.symm.trans hstep

end Wait

/-! ## Whole waits -/

/-- A wait that somebody cancels is the wait left alone if that one is over by then, and else it is
over with the cancellation. -/
theorem Tracker.wait_at (t : Tracker) {reach : Nat} (index : Nat → Lookup) (guid : String)
    (o : WaitOptions) (hr : (settle t.timeout o.timeout).nanos ≤ reach) (c : Nat) :
    let alone := t.wait reach index guid { o with cancellation := some .never }
    let report := t.wait reach index guid { o with cancellation := some (.at c) }
    report = alone ∧ alone.finished ≤ c ∨
      report.result = some (.error (.cancelled guid)) ∧ report.finished = c ∧
        c ≤ alone.finished := by
  intro alone report
  obtain ⟨n, hn⟩ := t.course_wait index guid { o with cancellation := some .never } hr nofun
  obtain ⟨n', hn'⟩ := t.course_wait index guid { o with cancellation := some (.at c) } hr nofun
  have hcases := hn.of_cancelledAt (c := c) hn' rfl
  refine hcases.imp_left fun ⟨hstarts, hanswered, hresult, hfinished, hle⟩ => ⟨?_, hle⟩
  have htold : report.changes = alone.changes := by
    rw [show report.changes = tellings index report.answered from t.changes_wait reach index guid _,
      show alone.changes = tellings index alone.answered from t.changes_wait reach index guid _]
    exact congrArg _ hanswered
  exact WaitReport.ext hresult hfinished hstarts hanswered htold

/-- A wait whose deadline the clock can tell does nothing if it is cancelled beforehand. One that
somebody cancels before it would be over is over then, and begins no lookup afterwards; an answer
that has not arrived by then is not told of. A listener that cancels on a status that is not final
ends the wait with that answer. A decisive answer that was received tells the result, whoever
cancels. -/
theorem Tracker.wait_cancelled (t : Tracker) (reach : Nat) (index : Nat → Lookup) (guid : String)
    (o : WaitOptions) (hr : (settle t.timeout o.timeout).nanos ≤ reach) :
    let report := fun c => t.wait reach index guid { o with cancellation := some c }
    let alone := report .never
    report .before = ⟨some (.error (.cancelled guid)), 0, [], 0, []⟩ ∧
    (∀ c,
      (c < alone.finished → (report (.at c)).result = some (.error (.cancelled guid)) ∧
        (report (.at c)).finished = c) ∧
      (alone.finished < c → report (.at c) = alone) ∧
      (∀ start ∈ (report (.at c)).starts, start = 0 ∨ start < c) ∧
      (∀ k start, (report (.at c)).starts[k]? = some start →
        (k < (report (.at c)).answered ↔ start + (index k).duration ≤ c)) ∧
      (report (.at c)).changes = (heard index (report (.at c)).answered).destutter (· ≠ ·)) ∧
    (∀ c, ∀ listener ∈ o.listener, ∀ told s, told <+: (report c).changes →
      listener told = true → told.getLast? = some s → s.isFinal = false →
      told = (report c).changes ∧ (report c).result = some (.error (.cancelled guid)) ∧
        ∃ k start, (report c).answered = k + 1 ∧ (report c).starts.length = k + 1 ∧
          (report c).starts[k]? = some start ∧
          (report c).finished = start + (index k).duration) ∧
    (∀ c k, (report c).answered = k + 1 → decisive (index k).answer = true →
      (report c).result = some (resultOf guid (index k).answer) ∧
        (report c).starts.length = k + 1 ∧ ∃ start, (report c).starts[k]? = some start ∧
          (report c).finished = start + (index k).duration) := by
  intro report alone
  have hbefore : report .before = ⟨some (.error (.cancelled guid)), 0, [], 0, []⟩ :=
    t.wait_before index guid _ hr rfl
  have hchanges : ∀ c, (report c).changes = tellings index (report c).answered := fun c =>
    t.changes_wait reach index guid _
  refine ⟨hbefore, fun c => ?_, ?_, ?_⟩
  · obtain ⟨n', hn'⟩ :=
      t.course_wait index guid { o with cancellation := some (.at c) } hr nofun
    refine ⟨fun hlt => ?_, fun hlt => ?_, ?_, ?_, hchanges (.at c)⟩
    · rcases t.wait_at index guid o hr c with ⟨-, hle⟩ | ⟨hresult, hfinished, -⟩
      · exact absurd hlt (Nat.not_lt_of_le hle)
      · exact ⟨hresult, hfinished⟩
    · rcases t.wait_at index guid o hr c with ⟨heq, -⟩ | ⟨-, -, hle⟩
      · exact heq
      · exact absurd hlt (Nat.not_lt_of_le hle)
    · intro start hmem
      obtain ⟨k, hk, rfl⟩ := hn'.mem_starts.1 hmem
      exact hn'.start_lt_cancelAt rfl hk
    · intro k start hk
      obtain ⟨hlt, rfl⟩ := hn'.getElem?_starts.1 hk
      exact hn'.lt_answered_iff rfl hlt
  · intro c listener hlistener told s hl hc hs hf
    by_cases hb : c = .before
    · subst hb
      rw [hbefore] at hl
      rw [List.prefix_nil.1 hl] at hs
      cases hs
    obtain ⟨n', hn'⟩ :=
      t.course_wait index guid { o with cancellation := some c } hr (by simpa using hb)
    have hcancels : (t.plan guid { o with cancellation := some c }).cancelsAfter told = true := by
      simp [plan, Option.mem_def.1 hlistener, hc]
    rw [hchanges c] at hl ⊢
    obtain ⟨heq, hresult, k, hanswered, hlen, hfinished⟩ :=
      hn'.closed.of_listener (fun _ => hn'.goesOn_of_lt) hl hcancels hs hf
    exact ⟨heq, hresult, k, _, hanswered, hlen,
      hn'.getElem?_starts.2 ⟨hlen ▸ Nat.lt_succ_self k, rfl⟩, hfinished⟩
  · intro c k hk hd
    by_cases hb : c = .before
    · subst hb
      rw [hbefore] at hk
      cases hk
    obtain ⟨n', hn'⟩ :=
      t.course_wait index guid { o with cancellation := some c } hr (by simpa using hb)
    obtain ⟨hresult, hlen, hfinished⟩ :=
      (hk ▸ hn'.closed).of_decisive (fun _ => hn'.goesOn_of_lt) hd
    exact ⟨hresult, hlen, _, hn'.getElem?_starts.2 ⟨hlen ▸ Nat.lt_succ_self k, rfl⟩, hfinished⟩

/-- A lookup under way is abandoned at the instant of the cancellation: left alone, the wait would
have had its answer 28 seconds later. -/
theorem Tracker.wait_cancelled_underway :
    let x : Scripted.Index :=
      { script := [.status .inflight, .status .delivered], delays := [.zero, .ofSeconds 30] }
    let wait := fun c => ({} : Tracker).wait Span.clockReach (x.lookups "0x01") "0x01"
      { cancellation := some c }
    let c := (Span.ofSeconds 12).nanos
    c < (wait .never).finished ∧ (wait (.at c)).result = some (.error (.cancelled "0x01")) ∧
      (wait (.at c)).finished = c ∧ (wait (.at c)).starts.length = 2 ∧
      (wait (.at c)).changes = [.inflight] := by
  intro x wait c
  have hlater : c < (wait .never).finished := by decide +kernel
  have hcancelled :=
    ((wait_cancelled {} Span.clockReach (x.lookups "0x01") "0x01" {} (by decide)).2.1 c).1 hlater
  exact ⟨hlater, hcancelled.1, hcancelled.2, by decide +kernel⟩

/-- A wait for the longest of all timeouts is not even seen to be cancelled where the clock has no
instant for its deadline. -/
theorem Tracker.cancelled_out_of_reach :
    let x : Scripted.Index := {}
    let report := ({} : Tracker).wait Span.clockReach (x.lookups "0x01") "0x01"
      { timeout := some .greatest, cancellation := some .before }
    report.starts = [] ∧ report.changes = [] ∧
      report.result ≠ some (.error (.cancelled "0x01")) := by
  intro x report
  have hreport : report = ⟨none, 0, [], 0, []⟩ := wait_out_of_reach {} _ _ _ (by decide)
  rw [hreport]
  exact ⟨rfl, rfl, nofun⟩

end TokenBridge.Relay
