import Mathlib.Algebra.GroupWithZero.Nat
import TokenBridge.Proofs.Program.Answered
import TokenBridge.Proofs.Wallet

/-!
# The balances of a wallet

`Reports` says what a summary tells of a wallet: one entry for each configured
chain that carries the token, as the two reads of that chain came out, with the
total and the eligible chains of those entries. A wallet that has no chain under
two names gets such a summary whoever answers and whatever fails, and an entry
does not change with what is answered about another chain (`readBalances_reports`).
-/

namespace TokenBridge

/-! ## Totals -/

theorem Amount.toNat_saturatingAdd (a b : Amount) :
    (a.saturatingAdd b).toNat = min (a.toNat + b.toNat) (2 ^ 256 - 1) := by
  unfold saturatingAdd
  split
  · rename_i hlt
    rw [BitVec.toNat_add, Nat.mod_eq_of_lt hlt]
    omega
  · rw [maximum, BitVec.toNat_allOnes]
    omega

namespace BalanceSummary

/-- Stopping at every step comes to stopping at the end, since no balance is negative. -/
theorem toNat_foldl_saturatingAdd (bs : List ChainBalance) (start : Amount) :
    (bs.foldl (fun sum b => sum.saturatingAdd b.token) start).toNat =
      min (start.toNat + (bs.map fun b => b.token.toNat).sum) (2 ^ 256 - 1) := by
  induction bs generalizing start with
  | nil =>
    have := start.isLt
    rw [List.foldl_nil, List.map_nil, List.sum_nil]
    omega
  | cons b bs ih =>
    rw [List.foldl_cons, ih, Amount.toNat_saturatingAdd, List.map_cons, List.sum_cons]
    omega

theorem toNat_tokenSum (bs : List ChainBalance) :
    (tokenSum bs).toNat = min (bs.map fun b => b.token.toNat).sum (2 ^ 256 - 1) := by
  have hzero : (0 : Amount).toNat = 0 := rfl
  rw [tokenSum, toNat_foldl_saturatingAdd, hzero, Nat.zero_add]

def others (name : String) (s : BalanceSummary) : List ChainBalance :=
  s.balances.filter (·.chain != name)

end BalanceSummary

namespace Wallet

variable {w w' : Wallet} {leastNative : Amount} {log log' : List (Event interface)}
  {s s' : BalanceSummary} {name : String}

/-! ## Summaries -/

/-- A summary of the balances of a wallet, answered as the log says. -/
structure Reports (w : Wallet) (leastNative : Amount) (log : List (Event interface))
    (s : BalanceSummary) : Prop where
  sorted : (s.balances.map (·.chain)).Pairwise (· < ·)
  /-- There is an entry for a name if it is a chain that the wallet is configured for. -/
  chains : ∀ name, name ∈ s.balances.map (·.chain) ↔
    name ∈ w.configured.map Text.lowerCase ∧ ∃ c : Chain, c.name = name
  read : ∀ b ∈ s.balances, Read leastNative b.chain (log.filter (about b.chain)) b
  qualifies : ∀ b ∈ s.balances, b.eligible = true ↔ 0 < b.token ∧ leastNative ≤ b.native
  total : s.total.toNat = min (s.balances.map fun b => b.token.toNat).sum (2 ^ 256 - 1)
  eligible : s.eligible = (s.balances.filter (·.eligible)).map (·.chain)

theorem reports_of_ends (hw : (w.configured.map Text.lowerCase).Nodup)
    (h : Flow.Ends (w.readBalances leastNative) log s) : Reports w leastNative log s := by
  obtain ⟨balances, l, l', rfl, hread, hs⟩ := Flow.ends_bind h
  obtain ⟨rfl, rfl⟩ := Flow.ends_done.1 hs
  obtain ⟨readings, hperm, hall⟩ := Flow.ends_all.1 hread
  have hn := nodup_tokenChains hw
  obtain ⟨hnames, halone⟩ := balances_alone hall hperm hn
  have hsorted : (BalanceSummary.sorted balances).Perm balances := List.mergeSort_perm ..
  have hread : ∀ b ∈ BalanceSummary.sorted balances,
      Read leastNative b.chain ((l ++ []).filter (about b.chain)) b := by
    intro b hb
    rw [List.append_nil]
    exact read_of_ends (halone b (hsorted.mem_iff.1 hb))
  refine ⟨Chain.pairwise_lt_mergeSort _ (hnames.nodup_iff.2 hn), fun name => ?_, hread,
    fun b hb => (hread b hb).eligible_iff, BalanceSummary.toNat_tokenSum _, rfl⟩
  change name ∈ (BalanceSummary.sorted balances).map (·.chain) ↔ _
  rw [((hsorted.map _).trans hnames).mem_iff, mem_tokenChains]

/-! ## Two summaries -/

/-- What was asked in both logs about chains other than this one was given the same answer. -/
def ConcurBut (name : String) (log log' : List (Event interface)) : Prop :=
  ∀ e ∈ log, ∀ e' ∈ log', about name e = false → e.request = e'.request → e.said = e'.said

theorem ConcurBut.symm (h : ConcurBut name log log') : ConcurBut name log' log := by
  intro e he e' he' hname heq
  have hname' : about name e' = false := by rwa [about, ← heq]
  exact (h e' he' e he hname' heq.symm).symm

theorem ConcurBut.concur {other : String} (h : ConcurBut name log log') (hne : other ≠ name) :
    Concur (log.filter (about other)) (log'.filter (about other)) := by
  intro e he e' he' heq
  obtain ⟨he, habout⟩ := List.mem_filter.1 he
  exact h e he e' (List.mem_filter.1 he').1 (apart_about hne e habout) heq

theorem concurBut_of_answeredBy {answers answers' : (r : Request) → interface.Answer r}
    (hsame : ∀ r, (subject r).map Chain.name ≠ some name → answers r = answers' r)
    (h : AnsweredBy answers log) (h' : AnsweredBy answers' log') : ConcurBut name log log' := by
  intro e he e' he' hname heq
  rw [h.said_eq he, h'.said_eq he', ← heq, hsame _ (beq_eq_false_iff_ne.1 hname)]

theorem Reports.mem_of_concur (h : Reports w leastNative log s)
    (h' : Reports w' leastNative log' s') (hw : w'.configured = w.configured) {b : ChainBalance}
    (hb : b ∈ s.balances)
    (hc : Concur (log.filter (about b.chain)) (log'.filter (about b.chain))) :
    b ∈ s'.balances := by
  have hchain := (h.chains b.chain).1 (List.mem_map_of_mem hb)
  rw [← hw] at hchain
  obtain ⟨b', hb', heq⟩ := List.mem_map.1 ((h'.chains b.chain).2 hchain)
  have hread := h'.read b' hb'
  rw [heq] at hread
  rwa [(h.read b hb).ends.unique hread.ends hc]

theorem Reports.others_eq (h : Reports w leastNative log s) (h' : Reports w' leastNative log' s')
    (hw : w'.configured = w.configured) (hc : ConcurBut name log log') :
    s.others name = s'.others name := by
  have hsublist : ∀ s : BalanceSummary,
      ((s.others name).map (·.chain)).Sublist (s.balances.map (·.chain)) :=
    fun s => List.filter_sublist.map _
  refine Chain.eq_of_pairwise_lt (·.chain) (h.sorted.sublist (hsublist s))
    (h'.sorted.sublist (hsublist s')) fun b => ?_
  rw [BalanceSummary.others, BalanceSummary.others, List.mem_filter, List.mem_filter]
  constructor
  · rintro ⟨hb, hne⟩
    exact ⟨h.mem_of_concur h' hw hb (hc.concur (bne_iff_ne.1 hne)), hne⟩
  · rintro ⟨hb, hne⟩
    exact ⟨h'.mem_of_concur h hw.symm hb (hc.symm.concur (bne_iff_ne.1 hne)), hne⟩

/-! ## Runs -/

section Runs

variable {σ : Type} (h : Handler interface σ) (order : Arrangement)

/-- Whoever answers, in whichever order the reads finish and whichever of them fail, each chain has
the entry that was read for it, and the total and the eligible chains are those of the entries. -/
theorem readBalances_reports (hw : (w.configured.map Text.lowerCase).Nodup) (leastNative : Amount)
    (now : Nat) (state : σ) :
    let run := (w.readBalances leastNative).run h order now state
    Reports w leastNative run.events run.result ∧
      ∀ {τ : Type} (h' : Handler interface τ) (order' : Arrangement) (w' : Wallet) (now' : Nat)
        (state' : τ) (name : String),
        let run' := (w'.readBalances leastNative).run h' order' now' state'
        w'.configured = w.configured → ConcurBut name run.events run'.events →
          run.result.others name = run'.result.others name := by
  intro run
  have hrun : Reports w leastNative run.events run.result :=
    reports_of_ends hw (Flow.ends_run h order _ now state)
  refine ⟨hrun, fun h' order' w' now' state' name hw' hc => ?_⟩
  have hrun' := reports_of_ends (hw' ▸ hw) (Flow.ends_run h' order' (w'.readBalances leastNative)
    now' state')
  exact hrun.others_eq hrun' hw' hc

end Runs

/-- Every token balance is `token`, every native one `native`, but the native one of Ink is as
given; no signer is handed out. -/
def inkAnswers (token native : Amount) (ink : Except Report Amount) :
    (r : Request) → interface.Answer r
  | .tokenBalance _ => Except.ok token
  | .nativeBalance name => if name = "ink" then ink else Except.ok native
  | .openSigner _ => Except.error (.of "no signer")
  | .onSigner _ (.read ..) => Except.error (.of "no signer")
  | .onSigner _ (.write ..) => Except.error (.of "no signer")
  | .onSigner _ (.wait _) => Except.error (.of "no signer")

/-- A wallet on Arbitrum and Ink has entries for both, and that of Arbitrum is the same whether or
not the native balance of Ink can be read. -/
theorem readBalances_reports_beside_ink :
    let w : Wallet := ⟨.zero, ["Arbitrum", "ink"], fun _ => true⟩
    let run ink := (w.readBalances 3).run (Handler.ofAnswers (I := interface) (inkAnswers 5 9 ink))
      .reversed 0 ()
    (w.configured.map Text.lowerCase).Nodup ∧
      (∀ ink name, name ∈ (run ink).result.balances.map (·.chain) ↔
        name = "arbitrum" ∨ name = "ink") ∧
      ∀ ink, (run ink).result.others "ink" = (run (.ok 9)).result.others "ink" := by
  intro w run
  have hnames : w.configured.map Text.lowerCase = ["arbitrum", "ink"] := by decide +kernel
  have hw : (w.configured.map Text.lowerCase).Nodup := by
    rw [hnames]
    decide
  refine ⟨hw, fun ink name => ?_, fun ink => ?_⟩
  · obtain ⟨hr, -⟩ := readBalances_reports
      (Handler.ofAnswers (I := interface) (inkAnswers 5 9 ink)) .reversed hw 3 0 ()
    rw [hr.chains, hnames]
    constructor
    · rintro ⟨hmem, -⟩
      simpa using hmem
    · rintro (rfl | rfl)
      · exact ⟨by decide, .arbitrum, rfl⟩
      · exact ⟨by decide, .ink, rfl⟩
  · obtain ⟨-, hothers⟩ := readBalances_reports
      (Handler.ofAnswers (I := interface) (inkAnswers 5 9 ink)) .reversed hw 3 0 ()
    have hanswered := fun ink => Flow.answeredBy_run
      (Handler.gives_ofAnswers (I := interface) (inkAnswers 5 9 ink)) .reversed
      (w.readBalances 3) 0 ()
    refine hothers _ .reversed w 0 () "ink" rfl
      (concurBut_of_answeredBy ?_ (hanswered ink) (hanswered (.ok 9)))
    intro r hr
    cases r with
    | nativeBalance name =>
      have hne : name ≠ "ink" := by
        rintro rfl
        exact hr (by decide +kernel)
      exact (if_neg hne).trans (if_neg hne).symm
    | onSigner signer r => cases r <;> rfl
    | _ => rfl

end Wallet

end TokenBridge
