import TokenBridge.Proofs.Balance
import TokenBridge.Proofs.Text.Order

/-!
# Summaries of balances

`Summarizes` says what a summary makes of a list of entries, whatever their
names: none is lost, they stand in the order of the bytes of their names, and
those of one name as they were given. Just one summary is such
(`Summarizes.unique`). An entry is found in it by its name up to the case of ASCII
letters, the first one if there are more (`ofBalances_exact`).
-/

namespace TokenBridge.BalanceSummary

variable {s s' : BalanceSummary} {balances balances' : List ChainBalance} {b : ChainBalance}
  {name : String}

/-! ## Entries and totals -/

theorem sorted_perm (balances : List ChainBalance) : (sorted balances).Perm balances :=
  List.mergeSort_perm ..

theorem toNat_total_ofBalances (balances : List ChainBalance) :
    (ofBalances balances).total.toNat =
      min (balances.map fun b => b.token.toNat).sum (2 ^ 256 - 1) := by
  rw [ofBalances, toNat_tokenSum, ((sorted_perm balances).map _).sum_nat]

/-- The total stops at the greatest amount in whichever order the balances are added. -/
theorem total_eq_of_perm (h : balances.Perm balances') :
    (ofBalances balances).total = (ofBalances balances').total := by
  apply BitVec.eq_of_toNat_eq
  rw [toNat_total_ofBalances, toNat_total_ofBalances, (h.map _).sum_nat]

/-- What a summary makes of a list of entries. -/
structure Summarizes (s : BalanceSummary) (balances : List ChainBalance) : Prop where
  perm : s.balances.Perm balances
  sorted : s.balances.Pairwise fun a b => Bytes.ofText a.chain ≤ Bytes.ofText b.chain
  /-- Entries of one name keep the order in which they were given. -/
  stable : ∀ name, s.balances.filter (·.chain == name) = balances.filter (·.chain == name)
  total : s.total.toNat = min (balances.map fun b => b.token.toNat).sum (2 ^ 256 - 1)
  eligible : s.eligible = (s.balances.filter (·.eligible)).map (·.chain)

theorem ofBalances_summarizes (balances : List ChainBalance) :
    (ofBalances balances).Summarizes balances where
  perm := sorted_perm balances
  sorted := (Chain.pairwise_le_mergeSort (·.chain) balances).imp Bytes.ofText_le_iff.2
  stable := Chain.filter_mergeSort (·.chain) balances
  total := toNat_total_ofBalances balances
  eligible := rfl

namespace Summarizes

theorem unique (h : s.Summarizes balances) (h' : s'.Summarizes balances) : s = s' := by
  have hbalances : s.balances = s'.balances := by
    refine Chain.eq_of_filter_eq (·.chain) (h.sorted.imp Bytes.ofText_le_iff.1)
      (h'.sorted.imp Bytes.ofText_le_iff.1) fun name => ?_
    rw [h.stable, h'.stable]
  have htotal : s.total = s'.total := BitVec.eq_of_toNat_eq (h.total.trans h'.total.symm)
  have heligible : s.eligible = s'.eligible := by
    rw [h.eligible, h'.eligible, hbalances]
  cases s
  cases s'
  congr

theorem eligible_perm (h : s.Summarizes balances) :
    s.eligible.Perm ((balances.filter (·.eligible)).map (·.chain)) :=
  h.eligible ▸ (h.perm.filter _).map _

theorem eligible_sorted (h : s.Summarizes balances) :
    s.eligible.Pairwise fun a b => Bytes.ofText a ≤ Bytes.ofText b :=
  h.eligible ▸ List.pairwise_map.2 (h.sorted.filter _)

end Summarizes

/-! ## Lookups -/

/-- The entry goes by the name, up to the case of ASCII letters. -/
def Named (name : String) (b : ChainBalance) : Prop :=
  b.chain.toList.map Text.foldChar = name.toList.map Text.foldChar

theorem sameText_eq_false_iff : Text.sameText b.chain name = false ↔ ¬ Named name b := by
  rw [Bool.eq_false_iff, Ne, Text.sameText_iff, Named]

theorem get?_eq_some_iff : s.get? name = some b ↔ Named name b ∧
    ∃ before after, s.balances = before ++ b :: after ∧ ∀ x ∈ before, ¬ Named name x := by
  rw [get?, List.find?_eq_some_iff_append, Text.sameText_iff, Named]
  simp only [Bool.not_eq_true', sameText_eq_false_iff]

theorem get?_eq_none_iff : s.get? name = none ↔ ∀ b ∈ s.balances, ¬ Named name b := by
  simp only [get?, List.find?_eq_none, Text.sameText_iff, Named]

/-! ## The whole -/

/-- Any list of entries has just one summary, and its total does not depend on the order in which
the entries are given. The eligible names are those of the eligible entries, in the order of their
bytes. A lookup finds the first entry of the summary that goes by the name, if there is one. -/
theorem ofBalances_exact (balances : List ChainBalance) :
    (∀ s : BalanceSummary, s.Summarizes balances ↔ s = ofBalances balances) ∧
    (∀ balances', balances'.Perm balances →
      (ofBalances balances').total = (ofBalances balances).total) ∧
    (ofBalances balances).eligible.Perm ((balances.filter (·.eligible)).map (·.chain)) ∧
    ((ofBalances balances).eligible.Pairwise fun a b => Bytes.ofText a ≤ Bytes.ofText b) ∧
    ∀ name, (∀ b, (ofBalances balances).get? name = some b ↔ Named name b ∧
        ∃ before after, (ofBalances balances).balances = before ++ b :: after ∧
          ∀ x ∈ before, ¬ Named name x) ∧
      ((ofBalances balances).get? name = none ↔ ∀ b ∈ balances, ¬ Named name b) := by
  have h := ofBalances_summarizes balances
  refine ⟨fun s => ⟨fun hs => hs.unique h, ?_⟩, fun _ => total_eq_of_perm, h.eligible_perm,
    h.eligible_sorted, fun name => ⟨fun b => get?_eq_some_iff, ?_⟩⟩
  · rintro rfl
    exact h
  · rw [get?_eq_none_iff]
    constructor
    · intro hnone b hb
      exact hnone b (h.perm.mem_iff.2 hb)
    · intro hnone b hb
      exact hnone b (h.perm.mem_iff.1 hb)

end TokenBridge.BalanceSummary
