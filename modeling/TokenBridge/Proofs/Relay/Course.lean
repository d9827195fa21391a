import TokenBridge.Proofs.Relay.Changes

/-!
# The course of a wait

The schedule of a wait does not hang on who cancels it: lookup `k` starts at
`startOf k` and its answer arrives at `arrival k`, unless the wait is over by
then. From one lookup to the next a wait goes on (`GoesOn`) until, at some
lookup, it closes in one of five ways (`Closes`):

* the lookup would start at or after the deadline;
* a cancellation cuts the lookup off;
* its answer ends the wait;
* the listener cancels when it is told of the answer;
* a cancellation ends the pause after the lookup.

Every wait takes such a course (`loop_course`), and what it does by when is read
off the way it closes.
-/

namespace TokenBridge.Relay

/-- The changes of the status that the first answers bring. -/
def tellings (index : Nat → Lookup) (n : Nat) : List Status :=
  (heard index n).destutter (· ≠ ·)

theorem tellings_succ (index : Nat → Lookup) (n : Nat) :
    tellings index (n + 1) = tellings index n ∨
      ∃ m, (index n).answer = .ok m ∧ (heard index n).getLast? ≠ some m.status ∧
        tellings index (n + 1) = tellings index n ++ [m.status] := by
  cases h : (index n).answer with
  | error e => exact .inl (by simp [tellings, heard_succ, h, status?])
  | ok m =>
    have hsucc : tellings index (n + 1) = tellings index n ++
        if (heard index n).getLast? = some m.status then [] else [m.status] := by
      rw [tellings, heard_succ, h, status?, Option.toList_some, destutter_concat, tellings]
    by_cases hlast : (heard index n).getLast? = some m.status
    · exact .inl (by rw [hsucc, if_pos hlast, List.append_nil])
    · exact .inr ⟨m, rfl, hlast, by rw [hsucc, if_neg hlast]⟩

namespace Wait

variable {w : Wait} {index : Nat → Lookup} {k n begun answered finished : Nat} {r : WaitReport}
  {result : Option (Except RelayError Message)}

/-! ## The schedule -/

/-- The instant at which a lookup starts, unless the wait is over by then. -/
def startOf (w : Wait) (index : Nat → Lookup) (k : Nat) : Nat :=
  lookupStart w.timeout.nanos w.interval index k

/-- The instant at which a lookup is answered, unless the wait is over by then. -/
def arrival (w : Wait) (index : Nat → Lookup) (k : Nat) : Nat :=
  w.startOf index k + (index k).duration

@[simp] theorem startOf_zero : w.startOf index 0 = 0 := rfl

theorem startOf_succ : w.startOf index (k + 1) = w.wake (w.arrival index k) := rfl

theorem startOf_mono (w : Wait) (index : Nat → Lookup) {j k : Nat} (h : j ≤ k) :
    w.startOf index j ≤ w.startOf index k := lookupStart_mono _ _ _ h

theorem startOf_le_arrival : w.startOf index k ≤ w.arrival index k := Nat.le_add_right ..

theorem arrival_le_startOf_succ : w.arrival index k ≤ w.startOf index (k + 1) := w.le_wake _

theorem wake_le (w : Wait) (now : Nat) : w.wake now ≤ max now w.timeout.nanos := by
  unfold wake
  omega

/-- What the answer to a lookup means, those before it having been told of. -/
def stepAt (w : Wait) (index : Nat → Lookup) (k : Nat) : Step :=
  w.step (index k).answer (isNews ⟨(heard index k).getLast?⟩ (index k).answer)
    (tellings index (k + 1))

theorem stepAt_eq {seen : Observer} {told : List Status}
    (hs : seen.last = (heard index k).getLast?) (ht : told = tellings index k) :
    w.stepAt index k = w.step (index k).answer (isNews seen (index k).answer)
      (changed told seen (index k).answer) := by
  rw [changed_eq_destutter hs ht, ← tellings, stepAt, ← hs]

theorem stepAt_of_decisive (h : decisive (index k).answer = true) :
    w.stepAt index k = .ends (resultOf w.guid (index k).answer) := step_of_decisive h _ _

theorem Undisturbed.stepAt (hw : w.Undisturbed) (h : decisive (index k).answer = false) :
    w.stepAt index k = .pauses := hw.step_of_not_decisive h _ _

/-! ## Going on and closing -/

theorem cancelledBefore?_eq_none {t : Nat} :
    w.cancelledBefore? t = none ↔ ∀ c ∈ w.cancelAt, t ≤ c := by
  cases h : w.cancelAt <;> simp [Wait.cancelledBefore?, h, Option.filter]

theorem cancelledBefore?_eq_some {t c : Nat} :
    w.cancelledBefore? t = some c ↔ w.cancelAt = some c ∧ c < t := by
  cases h : w.cancelAt with
  | none => simp [Wait.cancelledBefore?, h]
  | some c' =>
    by_cases hc : c' < t
    · simp only [Wait.cancelledBefore?, h, Option.filter, hc, decide_true, if_true,
        Option.some.injEq]
      constructor
      · rintro rfl; exact ⟨rfl, hc⟩
      · exact And.left
    · simp only [Wait.cancelledBefore?, h, Option.filter, hc, decide_false, Option.some.injEq]
      constructor
      · intro hn; cases hn
      · rintro ⟨rfl, hlt⟩; exact absurd hlt hc

/-- The wait goes on to the lookup after this one. -/
structure GoesOn (w : Wait) (index : Nat → Lookup) (k : Nat) : Prop where
  inTime : w.startOf index k < w.timeout.nanos
  pauses : w.stepAt index k = .pauses
  uncancelled : ∀ c ∈ w.cancelAt, w.startOf index (k + 1) < c

/-- The ways in which a wait closes at lookup `n`: how many lookups were begun and answered, with
which result and when. -/
inductive Closes (w : Wait) (index : Nat → Lookup) (n : Nat) :
    (begun answered : Nat) → (result : Option (Except RelayError Message)) → (finished : Nat) →
    Prop where
  | late : w.timeout.nanos ≤ w.startOf index n →
      Closes w index n n n (some (.error (.timeout w.guid w.timeout))) (w.startOf index n)
  | cutOff {c : Nat} : w.startOf index n < w.timeout.nanos → w.cancelAt = some c →
      c < w.arrival index n →
      Closes w index n (n + 1) n (some (.error (.cancelled w.guid))) (max c (w.startOf index n))
  | ended {result : Except RelayError Message} : w.startOf index n < w.timeout.nanos →
      (∀ c ∈ w.cancelAt, w.arrival index n ≤ c) → w.stepAt index n = .ends result →
      Closes w index n (n + 1) (n + 1) (some result) (w.arrival index n)
  | calledOff : w.startOf index n < w.timeout.nanos →
      (∀ c ∈ w.cancelAt, w.arrival index n ≤ c) → w.stepAt index n = .cancels →
      Closes w index n (n + 1) (n + 1) (some (.error (.cancelled w.guid))) (w.arrival index n)
  | awoken {c : Nat} : w.startOf index n < w.timeout.nanos → w.cancelAt = some c →
      w.arrival index n ≤ c → c ≤ w.startOf index (n + 1) → w.stepAt index n = .pauses →
      Closes w index n (n + 1) (n + 1) (some (.error (.cancelled w.guid))) c

/-- From lookup `k` on, the wait goes on until it closes at lookup `n`. -/
structure Course (w : Wait) (index : Nat → Lookup) (k n : Nat) (r : WaitReport) : Prop where
  goesOn : ∀ j, k ≤ j → j < n → w.GoesOn index j
  starts : r.starts = (List.range' k r.starts.length).map (w.startOf index)
  closes : w.Closes index n (k + r.starts.length) (k + r.answered) r.result r.finished

theorem Closes.course
    (h : w.Closes index k (k + r.starts.length) (k + r.answered) r.result r.finished)
    (hstarts : r.starts = (List.range' k r.starts.length).map (w.startOf index)) :
    Course w index k k r where
  goesOn _ hj hn := absurd hj (Nat.not_le_of_lt hn)
  starts := hstarts
  closes := h

theorem Course.cons {r' : WaitReport} (hk : w.GoesOn index k) (h : Course w index (k + 1) n r)
    (hstarts : r'.starts = w.startOf index k :: r.starts)
    (hanswered : r'.answered = r.answered + 1) (hresult : r'.result = r.result)
    (hfinished : r'.finished = r.finished) : Course w index k n r' where
  goesOn j hj hn := by
    rcases Nat.eq_or_lt_of_le hj with rfl | hlt
    · exact hk
    · exact h.goesOn j hlt hn
  starts := by
    rw [hstarts, List.length_cons, List.range'_succ, List.map_cons, ← h.starts]
  closes := by
    rw [hstarts, List.length_cons, hanswered, hresult, hfinished,
      show k + (r.starts.length + 1) = k + 1 + r.starts.length by omega,
      show k + (r.answered + 1) = k + 1 + r.answered by omega]
    exact h.closes

theorem loop_course (w : Wait) (index : Nat → Lookup) (k : Nat) (seen : Observer)
    (told : List Status) (hs : seen.last = (heard index k).getLast?)
    (ht : told = tellings index k) :
    ∃ n, Course w index k n (w.loop index k seen told (w.startOf index k)) := by
  generalize hstart : w.startOf index k = start
  fun_induction w.loop index k seen told start with
  | case1 k seen told start hlate =>
    subst hstart
    exact ⟨k, Closes.course (.late hlate) rfl⟩
  | case2 k seen told start hlate now c hc =>
    subst hstart
    obtain ⟨hcancel, hlt⟩ := cancelledBefore?_eq_some.1 hc
    exact ⟨k, Closes.course (.cutOff (Nat.lt_of_not_le hlate) hcancel hlt) rfl⟩
  | case3 k seen told start hlate answer now hc told' result hstep =>
    subst hstart
    exact ⟨k, Closes.course (.ended (Nat.lt_of_not_le hlate) (cancelledBefore?_eq_none.1 hc)
      ((stepAt_eq hs ht).trans hstep)) rfl⟩
  | case4 k seen told start hlate answer now hc told' hstep =>
    subst hstart
    exact ⟨k, Closes.course (.calledOff (Nat.lt_of_not_le hlate) (cancelledBefore?_eq_none.1 hc)
      ((stepAt_eq hs ht).trans hstep)) rfl⟩
  | case5 k seen told start hlate answer now hc told' hstep c hc' =>
    subst hstart
    obtain ⟨hcancel, hlt⟩ := cancelledBefore?_eq_some.1 hc'
    have hnow : now ≤ c := cancelledBefore?_eq_none.1 hc c hcancel
    refine ⟨k, Closes.course ?_ rfl⟩
    show w.Closes index k (k + 1) (k + 1) _ (max c now)
    rw [Nat.max_eq_left hnow]
    exact .awoken (Nat.lt_of_not_le hlate) hcancel hnow (Nat.le_of_lt_succ hlt)
      ((stepAt_eq hs ht).trans hstep)
  | case6 k seen told start hlate answer now hc told' hstep hc' rest ih =>
    subst hstart
    obtain ⟨n, hn⟩ := ih (last_observed hs) (changed_eq_destutter hs ht) rfl
    have hk : w.GoesOn index k :=
      ⟨Nat.lt_of_not_le hlate, (stepAt_eq hs ht).trans hstep, cancelledBefore?_eq_none.1 hc'⟩
    exact ⟨n, hn.cons hk rfl rfl rfl rfl⟩

/-! ## What a course tells -/

theorem Closes.not_goesOn (h : w.Closes index n begun answered result finished) :
    ¬ w.GoesOn index n := by
  intro hgo
  cases h with
  | late hlate => exact absurd hgo.inTime (Nat.not_lt_of_le hlate)
  | cutOff _ hcancel hlt =>
    have hnext := hgo.uncancelled _ hcancel
    have harrival : w.arrival index n ≤ w.startOf index (n + 1) := arrival_le_startOf_succ
    omega
  | ended _ _ hstep => cases hgo.pauses.symm.trans hstep
  | calledOff _ _ hstep => cases hgo.pauses.symm.trans hstep
  | awoken _ hcancel _ hle => exact absurd (hgo.uncancelled _ hcancel) (Nat.not_lt_of_le hle)

/-- The lookups begun are those before the one at which a wait closes, and that one where it starts
in time. -/
theorem Closes.begun_cases (h : w.Closes index n begun answered result finished) :
    begun = n ∧ w.timeout.nanos ≤ w.startOf index n ∨
      begun = n + 1 ∧ w.startOf index n < w.timeout.nanos := by
  cases h with
  | late hlate => exact .inl ⟨rfl, hlate⟩
  | cutOff htime | ended htime | calledOff htime | awoken htime => exact .inr ⟨rfl, htime⟩

theorem Closes.startOf_le_finished (h : w.Closes index n begun answered result finished)
    (hw : w.cancelAt = none) : w.startOf index n ≤ finished := by
  cases h with
  | late => exact Nat.le_refl _
  | cutOff _ hcancel | awoken _ hcancel => cases hw.symm.trans hcancel
  | ended | calledOff => exact startOf_le_arrival

theorem Closes.arrival_le_finished (h : w.Closes index n begun answered result finished)
    (hw : w.cancelAt = none) (hk : k < begun) : w.arrival index k ≤ finished := by
  have hbefore : k < n → w.arrival index k ≤ w.startOf index n := fun hlt =>
    Nat.le_trans arrival_le_startOf_succ (w.startOf_mono index hlt)
  cases h with
  | late => exact hbefore hk
  | cutOff _ hcancel | awoken _ hcancel => cases hw.symm.trans hcancel
  | ended | calledOff =>
    rcases Nat.lt_or_eq_of_le (Nat.le_of_lt_succ hk) with hlt | rfl
    · exact Nat.le_trans (hbefore hlt) startOf_le_arrival
    · exact Nat.le_refl _

namespace Course

theorem closed (h : Course w index 0 n r) :
    w.Closes index n r.starts.length r.answered r.result r.finished := by
  simpa only [Nat.zero_add] using h.closes

theorem goesOn_of_lt (h : Course w index 0 n r) (hk : k < n) : w.GoesOn index k :=
  h.goesOn k (Nat.zero_le k) hk

theorem starts_eq (h : Course w index 0 n r) :
    r.starts = (List.range r.starts.length).map (w.startOf index) := by
  rw [List.range_eq_range']
  exact h.starts

theorem getElem?_starts (h : Course w index 0 n r) {s : Nat} :
    r.starts[k]? = some s ↔ k < r.starts.length ∧ s = w.startOf index k := by
  rw [h.starts_eq, List.getElem?_map, List.length_map, List.length_range]
  by_cases hk : k < r.starts.length
  · simp [hk, eq_comm]
  · simp [hk]

theorem mem_starts (h : Course w index 0 n r) {s : Nat} :
    s ∈ r.starts ↔ ∃ k < r.starts.length, s = w.startOf index k := by
  simp only [List.mem_iff_getElem?, h.getElem?_starts]

theorem inTime (h : Course w index 0 n r) (hk : k < r.starts.length) :
    w.startOf index k < w.timeout.nanos := by
  rcases Nat.lt_or_ge k n with hlt | hge
  · exact (h.goesOn_of_lt hlt).inTime
  · rcases h.closed.begun_cases with ⟨hb, -⟩ | ⟨hb, htime⟩
    · omega
    · rwa [show k = n by omega]

theorem goesOn_of_succ_lt (h : Course w index 0 n r) (hk : k + 1 < r.starts.length) :
    w.GoesOn index k := by
  refine h.goesOn_of_lt ?_
  rcases h.closed.begun_cases with ⟨hb, -⟩ | ⟨hb, -⟩ <;> omega

theorem le_of_goesOn (h : Course w index 0 n r) (hk : ∀ j < k, w.GoesOn index j) : k ≤ n :=
  Nat.le_of_not_lt fun hlt => h.closed.not_goesOn (hk n hlt)

theorem lt_length_starts (h : Course w index 0 n r) (hk : ∀ j < k, w.GoesOn index j)
    (htime : w.startOf index k < w.timeout.nanos) : k < r.starts.length := by
  have hle := h.le_of_goesOn hk
  rcases h.closed.begun_cases with ⟨hb, hlate⟩ | ⟨hb, -⟩
  · have hne : k ≠ n := by
      rintro rfl
      exact absurd htime (Nat.not_lt_of_le hlate)
    omega
  · omega

theorem startOf_le_finished (h : Course w index 0 n r) (hw : w.cancelAt = none)
    (hk : ∀ j < k, w.GoesOn index j) : w.startOf index k ≤ r.finished :=
  Nat.le_trans (w.startOf_mono index (h.le_of_goesOn hk)) (h.closed.startOf_le_finished hw)

end Course

end Wait

/-! ## Whole waits -/

/-- A wait with a deadline that is not cancelled before it begins takes a course. -/
theorem Tracker.course_wait (t : Tracker) {reach : Nat} (index : Nat → Lookup) (guid : String)
    (o : WaitOptions) (hr : (settle t.timeout o.timeout).nanos ≤ reach)
    (hb : o.cancellation ≠ some .before) :
    ∃ n, Wait.Course (t.plan guid o) index 0 n (t.wait reach index guid o) := by
  rw [t.wait_eq_loop index guid o hr hb]
  exact (t.plan guid o).loop_course index 0 {} [] rfl rfl

theorem Tracker.changes_wait (t : Tracker) (reach : Nat) (index : Nat → Lookup) (guid : String)
    (o : WaitOptions) :
    (t.wait reach index guid o).changes = tellings index (t.wait reach index guid o).answered := by
  unfold wait
  split
  · rfl
  split
  · rfl
  · simpa [tellings] using (t.plan guid o).loop_changes index 0 {} [] 0 rfl rfl

/-- A wait does nothing at all, or it has a deadline and takes a course. -/
theorem Tracker.idle_or_course (t : Tracker) (reach : Nat) (index : Nat → Lookup) (guid : String)
    (o : WaitOptions) :
    (∃ result, t.wait reach index guid o = ⟨result, 0, [], 0, []⟩ ∧ ∀ m, result ≠ some (.ok m)) ∨
    ((settle t.timeout o.timeout).nanos ≤ reach ∧ o.cancellation ≠ some .before ∧
      ∃ n, Wait.Course (t.plan guid o) index 0 n (t.wait reach index guid o)) := by
  rcases t.wait_cases reach index guid o with ⟨-, h⟩ | ⟨-, -, h⟩ | ⟨hr, hb, -⟩
  · exact .inl ⟨_, h, nofun⟩
  · exact .inl ⟨_, h, nofun⟩
  · exact .inr ⟨hr, hb, t.course_wait index guid o hr hb⟩

end TokenBridge.Relay
