import Mathlib.Algebra.Order.Floor.Div
import TokenBridge.Scripted.Server

/-!
# How long a transaction is waited for

A wait for a transaction asks at the instants `askedAt`, each a pause after the
answer to the question before. Its last question is the first that is answered
with anything but none, or with none at or after the timeout (`Last`). There is
always one, and it decides the outcome (`Confirming.loop_course`). Questions are
a pause apart and all but the last are answered in time, so there is at most one
more of them than pauses until the timeout, rounded up
(`Account.confirm_settles`).
-/

namespace TokenBridge.Rpc

/-! ## What a node says -/

namespace ReceiptLibrary

variable {l : ReceiptLibrary} {reply : Reply}

/-- The reply is read as that there is no receipt yet. -/
def Pending (l : ReceiptLibrary) (reply : Reply) : Prop :=
  ∃ v, reply.toExcept = .ok v ∧ l.read v = some none

theorem answer_of_result {v : Json} (h : reply.toExcept = .ok v) :
    l.answer reply = match l.read v with
      | some x => .ok x
      | none => .error (malformed "receipt") := by
  cases hread : l.read v <;> simp [answer, h, hread]

theorem answer_of_read {v : Json} {x : Option l.Mined} (h : reply.toExcept = .ok v)
    (hread : l.read v = some x) : l.answer reply = .ok x := by
  simp [answer, h, hread]

theorem answer_eq_pending_iff : l.answer reply = .ok none ↔ l.Pending reply := by
  constructor
  · intro h
    cases hv : reply.toExcept with
    | error e =>
      rw [answer, hv] at h
      cases h
    | ok v =>
      rw [answer_of_result hv] at h
      split at h
      · next x hx => exact ⟨v, hv, hx.trans (congrArg some (Except.ok.inj h))⟩
      · cases h
  · rintro ⟨v, hv, hread⟩
    exact answer_of_read hv hread

end ReceiptLibrary

/-! ## The course of a wait -/

namespace Confirming

variable {w : Confirming} {replies : Nat → Confirmation} {k n : Nat} {r : ConfirmationReport}

/-- The instant of a question if all before it are answered with none. -/
def askedAt (w : Confirming) (replies : Nat → Confirmation) : Nat → Nat
  | 0 => 0
  | k + 1 => askedAt w replies k + (replies k).duration + w.pause

/-- The instant of the answer to that question. -/
def answeredAt (w : Confirming) (replies : Nat → Confirmation) (k : Nat) : Nat :=
  w.askedAt replies k + (replies k).duration

/-- The answer is none and comes before the timeout, so that the wait goes on. -/
def GoesOn (w : Confirming) (replies : Nat → Confirmation) (k : Nat) : Prop :=
  w.library.Pending (replies k).reply ∧ w.answeredAt replies k < w.timeout.nanos

/-- The outcome that a reply at an instant stands for: a receipt with its status and its logs as
they are read, a failure of the node or the way to it, a reply that cannot be read, or the end of
the timeout. -/
inductive Closes (w : Confirming) (instant : Nat) (reply : Reply) :
    Except Report Receipt → Prop where
  | mined {v : Json} {m : w.library.Mined} (hv : reply.toExcept = .ok v)
    (h : w.library.read v = some (some m)) :
    Closes w instant reply (.ok {
      status := w.library.status m
      hash := w.hash
      logs := (w.library.entries m).map fun e =>
        ⟨w.library.address e, w.library.topics e, w.library.data e⟩ })
  | failed {e : Report} (h : reply.toExcept = .error e) : Closes w instant reply (.error e)
  | unreadable {v : Json} (hv : reply.toExcept = .ok v) (h : w.library.read v = none) :
    Closes w instant reply (.error (malformed "receipt"))
  | late (h : w.library.Pending reply) (hlate : w.timeout.nanos ≤ instant) :
    Closes w instant reply (.error w.failure)

theorem Closes.eq_of_answer {instant : Nat} {reply : Reply} {result : Except Report Receipt}
    (h : w.Closes instant reply result) :
    result = match w.library.answer reply with
      | .error e => .error e
      | .ok (some m) => .ok (w.library.receipt w.hash m)
      | .ok none => .error w.failure := by
  cases h with
  | mined hv h =>
    simp only [ReceiptLibrary.answer_of_read hv h]
    rfl
  | failed h => simp [ReceiptLibrary.answer, h]
  | unreadable hv h => simp [ReceiptLibrary.answer_of_result hv, h]
  | late h => simp [ReceiptLibrary.answer_eq_pending_iff.2 h]

theorem Closes.eq_failure {instant : Nat} {reply : Reply} {result : Except Report Receipt}
    (h : w.Closes instant reply result) (hp : w.library.Pending reply) :
    result = .error w.failure := by
  simpa only [ReceiptLibrary.answer_eq_pending_iff.2 hp] using h.eq_of_answer

theorem Closes.eq_receipt {instant : Nat} {reply : Reply} {result : Except Report Receipt}
    {m : w.library.Mined} (h : w.Closes instant reply result)
    (hm : w.library.answer reply = .ok (some m)) :
    result = .ok (w.library.receipt w.hash m) := by
  simpa only [hm] using h.eq_of_answer

theorem Closes.of_receipt {instant : Nat} {reply : Reply} {m : w.library.Mined}
    (h : w.library.answer reply = .ok (some m)) :
    w.Closes instant reply (.ok (w.library.receipt w.hash m)) := by
  cases hv : reply.toExcept with
  | error e =>
    rw [ReceiptLibrary.answer, hv] at h
    cases h
  | ok v =>
    rw [ReceiptLibrary.answer_of_result hv] at h
    split at h
    · next x hx => exact .mined hv (hx.trans (congrArg some (Except.ok.inj h)))
    · cases h

theorem Closes.of_failure {instant : Nat} {reply : Reply} {e : Report}
    (h : w.library.answer reply = .error e) : w.Closes instant reply (.error e) := by
  cases hv : reply.toExcept with
  | error e' =>
    rw [ReceiptLibrary.answer, hv] at h
    cases h
    exact .failed hv
  | ok v =>
    rw [ReceiptLibrary.answer_of_result hv] at h
    split at h
    · cases h
    · next hx =>
      cases h
      exact .unreadable hv hx

/-- The wait ends with the answer to this question. -/
structure Last (w : Confirming) (replies : Nat → Confirmation) (n : Nat) : Prop where
  before : ∀ j < n, w.GoesOn replies j
  ends : ¬ w.GoesOn replies n

theorem Last.eq {m : Nat} (hn : w.Last replies n) (hm : w.Last replies m) : n = m := by
  rcases Nat.lt_trichotomy n m with hlt | heq | hlt
  · exact absurd (hm.before n hlt) hn.ends
  · exact heq
  · exact absurd (hn.before m hlt) hm.ends

/-- From question `k` on, the wait asks up to question `n`, whose answer closes it. -/
structure Course (w : Confirming) (replies : Nat → Confirmation) (k n : Nat)
    (r : ConfirmationReport) : Prop where
  le : k ≤ n
  asked : r.asked = (List.range' k (n + 1 - k)).map (w.askedAt replies)
  before : ∀ j, k ≤ j → j < n → w.GoesOn replies j
  ends : ¬ w.GoesOn replies n
  finished : r.finished = w.answeredAt replies n
  closes : w.Closes (w.answeredAt replies n) (replies n).reply r.result

theorem Course.cons {rest : ConfirmationReport} (h : Course w replies (k + 1) n rest)
    (hk : w.GoesOn replies k) :
    Course w replies k n { rest with asked := w.askedAt replies k :: rest.asked } where
  le := Nat.le_of_succ_le h.le
  asked := by
    have hlength : n + 1 - k = (n + 1 - (k + 1)) + 1 := by
      have := h.le
      omega
    rw [hlength, List.range'_succ, List.map_cons, ← h.asked]
  before j hkj hjn := by
    rcases Nat.eq_or_lt_of_le hkj with rfl | hlt
    · exact hk
    · exact h.before j hlt hjn
  ends := h.ends
  finished := h.finished
  closes := h.closes

theorem Course.single (hends : ¬ w.GoesOn replies k) {result : Except Report Receipt}
    (hcloses : w.Closes (w.answeredAt replies k) (replies k).reply result) :
    Course w replies k k ⟨result, w.answeredAt replies k, [w.askedAt replies k]⟩ where
  le := Nat.le_refl k
  asked := by simp
  before j hkj hjk := absurd hjk (Nat.not_lt_of_le hkj)
  ends := hends
  finished := rfl
  closes := hcloses

theorem loop_course (w : Confirming) (replies : Nat → Confirmation) (k : Nat) :
    ∃ n, Course w replies k n (w.loop replies k (w.askedAt replies k)) := by
  generalize hs : w.askedAt replies k = start
  fun_induction w.loop replies k start with
  | case1 k start now e ha =>
    subst hs
    refine ⟨k, .single (fun h => ?_) (.of_failure ha)⟩
    cases ha.symm.trans (ReceiptLibrary.answer_eq_pending_iff.2 h.1)
  | case2 k start now m ha =>
    subst hs
    refine ⟨k, .single (fun h => ?_) (.of_receipt ha)⟩
    cases ha.symm.trans (ReceiptLibrary.answer_eq_pending_iff.2 h.1)
  | case3 k start now ha hlate =>
    subst hs
    have hpending := ReceiptLibrary.answer_eq_pending_iff.1 ha
    exact ⟨k, .single (fun h => Nat.not_lt_of_le hlate h.2) (.late hpending hlate)⟩
  | case4 k start now ha hlate rest ih =>
    obtain ⟨n, hn⟩ := ih (by rw [askedAt, hs])
    subst hs
    exact ⟨n, hn.cons ⟨ReceiptLibrary.answer_eq_pending_iff.1 ha, Nat.lt_of_not_le hlate⟩⟩

theorem Course.last (h : Course w replies 0 n r) : w.Last replies n :=
  ⟨fun j => h.before j (Nat.zero_le j), h.ends⟩

theorem Course.asked_eq (h : Course w replies 0 n r) :
    r.asked = (List.range (n + 1)).map (w.askedAt replies) := by
  rw [List.range_eq_range']
  exact h.asked

theorem Course.eq_askedAt (h : Course w replies 0 n r) {start : Nat}
    (hk : r.asked[k]? = some start) : start = w.askedAt replies k := by
  rw [h.asked_eq, List.getElem?_eq_some_iff] at hk
  obtain ⟨_, rfl⟩ := hk
  rw [List.getElem_map, List.getElem_range]

/-! ## How many questions are asked -/

theorem askedAt_add_pause_le (w : Confirming) (replies : Nat → Confirmation) (k : Nat) :
    w.askedAt replies k + w.pause ≤ w.askedAt replies (k + 1) := by
  rw [askedAt]
  omega

theorem mul_pause_le_askedAt (w : Confirming) (replies : Nat → Confirmation) (k : Nat) :
    k * w.pause ≤ w.askedAt replies k := by
  induction k with
  | zero => simp [askedAt]
  | succ k ih =>
    have := w.askedAt_add_pause_le replies k
    rw [Nat.succ_mul]
    omega

theorem askedAt_of_immediate (h : ∀ k, (replies k).duration = 0) (k : Nat) :
    w.askedAt replies k = k * w.pause := by
  induction k with
  | zero => simp [askedAt]
  | succ k ih => rw [askedAt, ih, h, Nat.succ_mul, Nat.add_zero]

/-- All questions but the last are asked before the timeout, a pause apart. -/
theorem Last.le_ceilDiv (h : w.Last replies n) : n ≤ w.timeout.nanos ⌈/⌉ w.pause := by
  cases n with
  | zero => exact Nat.zero_le _
  | succ n =>
    refine Nat.lt_of_not_le fun hle => ?_
    rw [ceilDiv_le_iff_le_mul w.pause_pos, Nat.mul_comm] at hle
    have htime := (h.before n (Nat.lt_succ_self n)).2
    have hpause := mul_pause_le_askedAt w replies n
    unfold answeredAt at htime
    omega

/-- Where every answer is none and takes no time, the wait goes on for all pauses until the
timeout. -/
theorem Last.eq_ceilDiv (h : w.Last replies n)
    (hnone : ∀ k, (replies k).duration = 0 ∧ w.library.Pending (replies k).reply) :
    n = w.timeout.nanos ⌈/⌉ w.pause := by
  refine Nat.le_antisymm h.le_ceilDiv ?_
  rw [ceilDiv_le_iff_le_mul w.pause_pos, Nat.mul_comm]
  have hlate : ¬ w.answeredAt replies n < w.timeout.nanos := fun hlt => h.ends ⟨(hnone n).2, hlt⟩
  rw [answeredAt, askedAt_of_immediate fun k => (hnone k).1, (hnone n).1] at hlate
  omega

end Confirming

/-! ## Whole waits -/

namespace Account

/-- A wait for a transaction whose timeout the clock counts ends with its last question: with the
receipt, the failure, or the first answer of none at or after the timeout, and never without a
question. Questions are at least half a second apart, so there is at most one more than half seconds
in the timeout, rounded up, and exactly one more where every answer is none and takes no time. -/
theorem confirm_settles (a : Account) (reach : Nat) (library : ReceiptLibrary) (hash : Hash)
    (replies : Nat → Confirmation) (hr : a.receiptTimeout.nanos ≤ reach) :
    let w := a.confirming library hash
    let halfSecond := (Number.Span.ofMillis 500).nanos
    ∃ report, a.confirm reach library hash replies = some report ∧
      (∃ n, w.Last replies n) ∧
      (∀ n, w.Last replies n →
        report.asked = (List.range (n + 1)).map (w.askedAt replies) ∧
        report.finished = w.answeredAt replies n ∧
        w.Closes (w.answeredAt replies n) (replies n).reply report.result) ∧
      (∀ k start next, report.asked[k]? = some start → report.asked[k + 1]? = some next →
        start + halfSecond ≤ next) ∧
      report.asked.length ≤ a.receiptTimeout.nanos ⌈/⌉ halfSecond + 1 ∧
      ((∀ k, (replies k).duration = 0 ∧ library.Pending (replies k).reply) →
        report.asked.length = a.receiptTimeout.nanos ⌈/⌉ halfSecond + 1 ∧
        report.result = .error w.failure) := by
  intro w halfSecond
  obtain ⟨n, hn⟩ := w.loop_course replies 0
  have hlast : w.Last replies n := hn.last
  have hasked := hn.asked_eq
  have hlength : (w.loop replies 0 0).asked.length = n + 1 := by
    rw [show (w.loop replies 0 0).asked = _ from hasked, List.length_map, List.length_range]
  refine ⟨w.loop replies 0 0, if_neg (Nat.not_lt.2 hr), ⟨n, hlast⟩, ?_, ?_, ?_, ?_⟩
  · intro m hm
    obtain rfl := hlast.eq hm
    exact ⟨hasked, hn.finished, hn.closes⟩
  · intro k start next hk hnext
    rw [hn.eq_askedAt hk, hn.eq_askedAt hnext]
    exact w.askedAt_add_pause_le replies k
  · rw [hlength]
    exact Nat.succ_le_succ hlast.le_ceilDiv
  · intro hnone
    exact ⟨hlength.trans (congrArg (· + 1) (hlast.eq_ceilDiv hnone)),
      hn.closes.eq_failure (hnone n).2⟩

/-- A transaction that is mined when its receipt is asked for the third time. -/
theorem confirm_settles_third :
    let a : Account := {
      chain := "arbitrum"
      url := ⟨"http", "", "", some (.domain "localhost"), some 8545, .segments [""], none, none⟩
      key := ⟨1, by decide, by decide⟩ }
    let mined := Json.obj [("status", .str "0x1"), ("logs", .arr [])]
    let replies := fun k => Confirmation.mk (.result (if k < 2 then .null else mined)) 0
    a.receiptTimeout.nanos ≤ Number.Span.clockReach ∧
    ∃ report, a.confirm Number.Span.clockReach Scripted.Node.receipts ⟨1⟩ replies = some report ∧
      report.asked = [0, 500000000, 1000000000] ∧ report.result = .ok ⟨true, ⟨1⟩, []⟩ := by
  intro a mined replies
  have hr : a.receiptTimeout.nanos ≤ Number.Span.clockReach := by decide
  obtain ⟨report, hreport, -, hlast, -⟩ :=
    confirm_settles a Number.Span.clockReach Scripted.Node.receipts ⟨1⟩ replies hr
  have hmined : Scripted.Node.receiptFromJson? mined = some (some (true, [])) := by decide +kernel
  have hthird : (a.confirming Scripted.Node.receipts ⟨1⟩).Last replies 2 := by
    refine ⟨fun j hj => ?_, fun h => ?_⟩
    · obtain rfl | rfl : j = 0 ∨ j = 1 := by omega
      · exact ⟨⟨.null, rfl, rfl⟩, by decide⟩
      · exact ⟨⟨.null, rfl, rfl⟩, by decide⟩
    · obtain ⟨⟨v, hv, hread⟩, -⟩ := h
      obtain rfl : mined = v := Except.ok.inj hv
      cases hmined.symm.trans hread
  obtain ⟨hasked, -, hcloses⟩ := hlast 2 hthird
  exact ⟨hr, report, hreport, hasked.trans (by decide),
    hcloses.eq_receipt (ReceiptLibrary.answer_of_read rfl hmined)⟩

/-- A receipt that is there is not even asked for where the clock has no instant for the end of the
longest of all timeouts. -/
theorem confirm_out_of_reach :
    let a : Account := {
      chain := "arbitrum"
      url := ⟨"http", "", "", some (.domain "localhost"), some 8545, .segments [""], none, none⟩
      key := ⟨1, by decide, by decide⟩
      receiptTimeout := .greatest }
    let mined := Json.obj [("status", .str "0x1"), ("logs", .arr [])]
    let replies := fun _ => Confirmation.mk (.result mined) 0
    Scripted.Node.receiptFromJson? mined = some (some (true, [])) ∧
      ¬ ∃ report, a.confirm Number.Span.clockReach Scripted.Node.receipts ⟨1⟩ replies =
        some report := by
  intro a mined replies
  have hnone : a.confirm Number.Span.clockReach Scripted.Node.receipts ⟨1⟩ replies = none :=
    if_pos (by decide)
  rw [hnone]
  exact ⟨by decide +kernel, nofun⟩

end Account

end TokenBridge.Rpc
