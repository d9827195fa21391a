import TokenBridge.Proofs.Bridge.Cache
import TokenBridge.Proofs.Wallet
import TokenBridge.Router

/-!
# The stages of a survey

A survey of routes has three stages: the balances are read at once, the sources
are tested one after the other with the clients that the cache keeps, and the
quotes are asked at once. `Surveyed` lists the stages with the part of the log
that belongs to each; it is how a survey of a supported destination ends, always
with a list of routes (`surveyed_of_ends`).
-/

namespace TokenBridge.Router

open Bridge (Cache Kept)
open Program (AllEnd)
open Wallet (readBalance)

variable {α β : Type} {r : Router} {before after : Cache} {log : List (Event Wallet.interface)}

/-! ## Work -/

def Work.Ends (x : Work α) (before : Cache) (log : List (Event Wallet.interface))
    (y : Except BridgeError α) (after : Cache) : Prop :=
  Flow.Ends ((ExceptT.run x).run before) log (y, after)

theorem Work.ends_ofExcept {x y : Except BridgeError α}
    (h : Work.Ends (ofExcept x) before log y after) : log = [] ∧ y = x ∧ after = before := by
  obtain ⟨rfl, heq⟩ := Flow.ends_done.1 h
  cases heq
  exact ⟨rfl, rfl, rfl⟩

theorem Work.ends_ofFlow {p : Flow Wallet.interface α} {y : Except BridgeError α}
    (h : Work.Ends (ofFlow p) before log y after) :
    ∃ a, y = .ok a ∧ after = before ∧ Flow.Ends p log a := by
  obtain ⟨x, l, l', rfl, h₁, h₂⟩ := Flow.ends_bind h
  obtain ⟨a, l₁, l₂, rfl, h₃, h₄⟩ := Flow.ends_bind h₁
  obtain ⟨rfl, rfl⟩ := Flow.ends_done.1 h₄
  obtain ⟨rfl, heq⟩ := Flow.ends_done.1 h₂
  cases heq
  exact ⟨a, rfl, rfl, by simpa using h₃⟩

theorem Work.ends_lift {f : StateT Cache (Flow Wallet.interface) α} {y : Except BridgeError α}
    (h : Work.Ends (ExceptT.lift f) before log y after) :
    ∃ a, y = .ok a ∧ Flow.Ends (f.run before) log (a, after) := by
  obtain ⟨x, l, l', rfl, h₁, h₂⟩ := Flow.ends_bind h
  obtain ⟨rfl, heq⟩ := Flow.ends_done.1 h₂
  cases heq
  exact ⟨x.1, rfl, by rwa [List.append_nil]⟩

theorem Work.ends_bind {x : Work α} {f : α → Work β} {y : Except BridgeError β}
    (h : Work.Ends (x >>= f) before log y after) :
    (∃ e, Work.Ends x before log (.error e) after ∧ y = .error e) ∨
    ∃ a mid l l', log = l ++ l' ∧ Work.Ends x before l (.ok a) mid ∧
      Work.Ends (f a) mid l' y after := by
  obtain ⟨⟨a | a, mid⟩, l, l', rfl, h₁, h₂⟩ := Flow.ends_bind h
  · obtain ⟨rfl, heq⟩ := Flow.ends_done.1 h₂
    cases heq
    exact .inl ⟨a, by rwa [List.append_nil], rfl⟩
  · exact .inr ⟨a, mid, l, l', rfl, h₁, h₂⟩

/-! ## Sources -/

/-- The balances of the chains that a transfer to the destination can start from. -/
def sources (destination : Chain) (balances : List ChainBalance) : List ChainBalance :=
  (BalanceSummary.sorted balances).filter fun b => b.chain != destination.name

theorem mem_of_mem_sources {destination : Chain} {balances : List ChainBalance} {b : ChainBalance}
    (h : b ∈ sources destination balances) : b ∈ balances ∧ b.chain ≠ destination.name := by
  obtain ⟨hmem, hne⟩ := List.mem_filter.1 h
  exact ⟨List.mem_mergeSort.1 hmem, bne_iff_ne.1 hne⟩

/-- The sources are tested one after the other, each with the cache that the one before it left. -/
inductive Tried (r : Router) (destination : Chain) (amount : Option Amount) :
    List ChainBalance → Cache → List (Event Wallet.interface) → List Candidate → Cache → Prop where
  | nil (cache : Cache) : Tried r destination amount [] cache [] [] cache
  | cons {b : ChainBalance} {bs : List ChainBalance} {before mid after : Cache}
      {l l' : List (Event Wallet.interface)} {c : Candidate} {cs : List Candidate} :
      Program.Ends (r.candidate destination amount b before) l (c, mid) →
      Tried r destination amount bs mid l' cs after →
      Tried r destination amount (b :: bs) before (l ++ l') (c :: cs) after

theorem tried_of_ends {destination : Chain} {amount : Option Amount} {bs : List ChainBalance}
    {cs : List Candidate}
    (h : Program.Ends ((bs.mapM (r.candidate destination amount)).run before) log (cs, after)) :
    Tried r destination amount bs before log cs after := by
  induction bs generalizing before log cs with
  | nil =>
    obtain ⟨rfl, heq⟩ := Program.ends_done.1 h
    cases heq
    exact .nil _
  | cons b bs ih =>
    rw [List.mapM_cons] at h
    obtain ⟨⟨c, mid⟩, l, l', rfl, h₁, h₂⟩ := Program.ends_bind.1 h
    obtain ⟨⟨cs', last⟩, l₁, l₂, rfl, h₃, h₄⟩ := Program.ends_bind.1 h₂
    obtain ⟨rfl, heq⟩ := Program.ends_done.1 h₄
    cases heq
    rw [List.append_nil]
    exact .cons h₁ (ih h₃)

/-! ## Stages -/

/-- The stages of a survey, which end with the routes found. -/
inductive Surveyed (r : Router) (destination : Chain) (amount : Option Amount) (before : Cache) :
    List (Event Wallet.interface) → List Route → Cache → Prop where
  | mk {readings quotes : List _} {l₁ l₂ l₃ : List (Event Wallet.interface)}
      {balances : List ChainBalance} {candidates : List Candidate} {quoted : List Route}
      {after : Cache} :
      readings.Perm (r.wallet.tokenChains.map (readBalance r.settings.leastNative)) →
      AllEnd readings l₁ balances →
      Tried r destination amount (sources destination balances) before l₂ candidates after →
      quotes.Perm (quoting candidates) → AllEnd quotes l₃ quoted →
      Surveyed r destination amount before (l₁ ++ (l₂ ++ l₃))
        (sorted (settled candidates ++ quoted)) after

theorem surveyed_of_ends {name : String} {amount : Option Amount}
    {y : Except BridgeError (List Route)}
    (h : Work.Ends (r.routes name amount) before log y after) :
    (Chain.lookup name = none ∧ log = [] ∧ y = .error (.unsupported name) ∧ after = before) ∨
    ∃ destination found, Chain.lookup name = some destination ∧ y = .ok found ∧
      Surveyed r destination (amount.filter (· != 0)) before log found after := by
  unfold routes at h
  cases hd : Chain.lookup name with
  | none =>
    rw [hd] at h
    obtain ⟨rfl, rfl, rfl⟩ := Work.ends_ofExcept h
    exact .inl ⟨rfl, rfl, rfl, rfl⟩
  | some destination =>
    rw [hd] at h
    rcases Work.ends_bind h with ⟨e, h₁, -⟩ | ⟨summary, mid, l, l', rfl, h₁, h₂⟩
    · obtain ⟨_, hy, -⟩ := Work.ends_ofFlow h₁
      cases hy
    obtain ⟨_, hy, rfl, hb⟩ := Work.ends_ofFlow h₁
    cases hy
    obtain ⟨balances, l₁, l₂, rfl, hread, hsummary⟩ := Flow.ends_bind hb
    obtain ⟨rfl, rfl⟩ := Flow.ends_done.1 hsummary
    obtain ⟨readings, hperm, hread⟩ := Flow.ends_all.1 hread
    rcases Work.ends_bind h₂ with ⟨e, h₃, -⟩ | ⟨candidates, mid', l₂, l₃, rfl, h₃, h₄⟩
    · obtain ⟨_, hy, -⟩ := Work.ends_lift h₃
      cases hy
    obtain ⟨_, hy, hc⟩ := Work.ends_lift h₃
    cases hy
    rcases Work.ends_bind h₄ with ⟨e, h₅, -⟩ | ⟨quoted, mid'', l₄, l₅, rfl, h₅, h₆⟩
    · obtain ⟨_, hy, -⟩ := Work.ends_ofFlow h₅
      cases hy
    obtain ⟨_, hy, rfl, hq⟩ := Work.ends_ofFlow h₅
    cases hy
    obtain ⟨quotes, hqperm, hq⟩ := Flow.ends_all.1 hq
    obtain ⟨rfl, heq⟩ := Flow.ends_done.1 h₆
    cases heq
    refine .inr ⟨destination, _, rfl, rfl, ?_⟩
    rw [List.append_nil, List.append_nil]
    exact .mk hperm hread (tried_of_ends (Flow.ends_ofProgram hc)) hqperm hq

theorem surveyed_of_ends_ok {name : String} {amount : Option Amount} {found : List Route}
    (h : Work.Ends (r.routes name amount) before log (.ok found) after) :
    ∃ destination, Chain.lookup name = some destination ∧
      Surveyed r destination (amount.filter (· != 0)) before log found after := by
  rcases surveyed_of_ends h with ⟨-, -, hno, -⟩ | ⟨destination, _, hd, hok, hs⟩
  · cases hno
  · cases hok
    exact ⟨destination, hd, hs⟩

theorem refused_of_ends_error {name : String} {amount : Option Amount} {e : BridgeError}
    (h : Work.Ends (r.routes name amount) before log (.error e) after) :
    Chain.lookup name = none ∧ log = [] := by
  rcases surveyed_of_ends h with ⟨hd, hnil, -⟩ | ⟨_, _, -, hok, -⟩
  · exact ⟨hd, hnil⟩
  · cases hok

end TokenBridge.Router
