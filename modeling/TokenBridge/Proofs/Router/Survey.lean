import TokenBridge.Proofs.Router.Source

/-!
# Sources apart

The stages of a survey mix the sources: balances are read at once, clients are
taken from one cache, and quotes finish in any order. Where no two sources have
one name it makes no difference. Each route found is the one that its source
gives by itself (`Surveyed.alone`), answered as the log says about that source,
with the cache entry that it had at first.
-/

namespace TokenBridge.Router

open Bridge (Cache)
open Bridge.Cache (Reached)
open Program (AllEnd Ends)
open Wallet (about apart_about balances_alone readBalance)

variable {r : Router} {destination : Chain} {amount : Option Amount} {before after : Cache}
  {log past : List (Event Wallet.interface)} {bs balances : List ChainBalance}
  {cs : List Candidate}

/-! ## Sources -/

theorem map_chain_sources (destination : Chain) {names : List String}
    (h : (balances.map (·.chain)).Perm names) :
    ((sources destination balances).map (·.chain)).Perm (names.filter (· != destination.name)) := by
  have hsorted : (BalanceSummary.sorted balances).Perm balances := List.mergeSort_perm ..
  have hmap : (sources destination balances).map (·.chain) =
      ((BalanceSummary.sorted balances).map (·.chain)).filter (· != destination.name) := by
    rw [List.filter_map]
    rfl
  rw [hmap]
  exact ((hsorted.map _).trans h).filter _

/-! ## Tests -/

/-- A source was tested with the cache entry that it had at first, answered as the part of the log
about it says. -/
def TestedAlone (r : Router) (destination : Chain) (amount : Option Amount) (before : Cache)
    (log : List (Event Wallet.interface)) (b : ChainBalance) (c : Candidate) : Prop :=
  ∃ past mid after, Reached r.wallet past mid ∧ mid.find? b.chain = before.find? b.chain ∧
    Ends (r.candidate destination amount b mid) (log.filter (about b.chain)) (c, after)

theorem TestedAlone.rest_about {b : ChainBalance} {c : Candidate} {x : Route}
    {l : List (Event Wallet.interface)} (h : TestedAlone r destination amount before log b c)
    (hb : ∃ chain : Chain, chain.name = b.chain) (hx : Ends c.rest l x) :
    ∀ e ∈ l, about b.chain e = true := by
  obtain ⟨past', mid, last, hr, -, hends⟩ := h
  obtain ⟨chain, hname⟩ := hb
  exact fun e he => (tested_of_ends hends).rest_about hr hname hx he

theorem Tried.exists_about (h : Tried r destination amount bs before log cs after)
    (hc : ∀ b ∈ bs, ∃ chain : Chain, chain.name = b.chain) :
    ∀ e ∈ log, ∃ name ∈ bs.map (·.chain), about name e = true := by
  induction h with
  | nil => exact fun e he => by cases he
  | @cons b bs _ _ _ _ _ c cs hb h ih =>
    intro e he
    rw [List.map_cons]
    rcases List.mem_append.1 he with he | he
    · obtain ⟨chain, hchain⟩ := hc b List.mem_cons_self
      exact ⟨_, List.mem_cons_self, (tested_of_ends hb).about hchain he⟩
    · obtain ⟨name, hname, habout⟩ := ih (fun b hb => hc b (List.mem_cons_of_mem _ hb)) e he
      exact ⟨name, List.mem_cons_of_mem _ hname, habout⟩

theorem Tried.alone (h : Tried r destination amount bs before log cs after)
    (hr : Reached r.wallet past before) (hc : ∀ b ∈ bs, ∃ chain : Chain, chain.name = b.chain)
    (hn : (bs.map (·.chain)).Nodup) :
    List.Forall₂ (TestedAlone r destination amount before log) bs cs := by
  induction h generalizing past with
  | nil => exact .nil
  | @cons b bs before mid after l l' c cs hb h ih =>
    have hb' := tested_of_ends hb
    obtain ⟨chain, hchain⟩ := hc b List.mem_cons_self
    have hcs : ∀ b ∈ bs, ∃ chain : Chain, chain.name = b.chain :=
      fun b hb => hc b (List.mem_cons_of_mem _ hb)
    rw [List.map_cons, List.nodup_cons] at hn
    have hown : ∀ e ∈ l, about b.chain e = true := fun e he => hb'.about hchain he
    have hothers : ∀ b' ∈ bs, b.chain ≠ b'.chain := fun b' hmem heq =>
      hn.1 (heq ▸ List.mem_map_of_mem hmem)
    refine .cons ⟨past, before, mid, hr, rfl, ?_⟩ ?_
    · have hrest : l'.filter (about b.chain) = [] := by
        refine Program.filter_eq_nil_of_apart (bs.map (·.chain)) (h.exists_about hcs) ?_
        intro name hname
        obtain ⟨b', hmem, rfl⟩ := List.mem_map.1 hname
        exact apart_about (hothers b' hmem)
      rwa [List.filter_append, List.filter_eq_self.2 hown, hrest, List.append_nil]
    · refine ((List.forall₂_and_left _ _).2 ⟨hothers, ih (hb'.reached hr) hcs hn.2⟩).imp ?_
      rintro b' c' ⟨hne, past', mid', after', hr', hfind, hends⟩
      refine ⟨past', mid', after', hr', hfind.trans (hb'.find?_of_ne ?_), ?_⟩
      · rwa [← hchain, Chain.lowerCase_name, hchain]
      · have hfirst : l.filter (about b'.chain) = [] := by
          refine Program.filter_eq_nil_of_apart [b.chain]
            (fun e he => ⟨_, List.mem_singleton.2 rfl, hown e he⟩) ?_
          exact fun name hname => List.mem_singleton.1 hname ▸ apart_about hne.symm
        rwa [List.filter_append, hfirst]

/-! ## Routes -/

/-- What is left to do for the candidates is done at once; those that are settled ask nothing. -/
theorem allEnd_rest {quotes : List (Program Wallet.interface Route)} {quoted : List Route}
    (hp : quotes.Perm (quoting cs)) (h : AllEnd quotes log quoted) :
    ∃ rests, rests.Perm (cs.map Candidate.rest) ∧ AllEnd rests log (settled cs ++ quoted) := by
  have hall : ∀ xs : List Route, AllEnd (xs.map Program.done ++ quotes) log (xs ++ quoted) := by
    intro xs
    induction xs with
    | nil => exact h
    | cons x xs ih => exact .cons (.done x) ih
  have hrest : ((settled cs).map Program.done ++ quoting cs).Perm (cs.map Candidate.rest) := by
    clear hp
    induction cs with
    | nil => exact .nil
    | cons c cs ih =>
      cases c with
      | settled x => exact ih.cons _
      | quoting task => exact List.perm_middle.trans (ih.cons _)
  exact ⟨_, (hp.append_left _).trans hrest, hall (settled cs)⟩

theorem rests_exists_about {rests : List (Program Wallet.interface Route)} {routes : List Route}
    {l : List (Event Wallet.interface)} (h : AllEnd rests l routes)
    (hp : rests.Perm (cs.map Candidate.rest))
    (ht : List.Forall₂ (TestedAlone r destination amount before log) bs cs)
    (hc : ∀ b ∈ bs, ∃ chain : Chain, chain.name = b.chain) :
    ∀ e ∈ l, ∃ name ∈ bs.map (·.chain), about name e = true := by
  intro e he
  obtain ⟨p, hrest, x, -, l', hx, he⟩ := h.mem_log he
  obtain ⟨c, hmem, rfl⟩ := List.mem_map.1 (hp.mem_iff.1 hrest)
  obtain ⟨b, hb, htest⟩ := Program.exists_key_of_forall₂ ht hmem
  exact ⟨_, List.mem_map_of_mem hb, htest.rest_about (hc b hb) hx e he⟩

theorem rests_alone {rests : List (Program Wallet.interface Route)} {routes : List Route}
    {l : List (Event Wallet.interface)} (h : AllEnd rests l routes)
    (hp : rests.Perm (cs.map Candidate.rest))
    (ht : List.Forall₂ (TestedAlone r destination amount before log) bs cs)
    (hc : ∀ b ∈ bs, ∃ chain : Chain, chain.name = b.chain) (hn : (bs.map (·.chain)).Nodup) :
    (routes.map (·.source)).Perm (bs.map (·.chain)) ∧
      ∀ x ∈ routes, ∃ b ∈ bs, b.chain = x.source ∧ ∃ c,
        TestedAlone r destination amount before log b c ∧
          Ends c.rest (l.filter (about x.source)) x := by
  have hk : List.Forall₂ (fun b p => b ∈ bs ∧
      ∃ c : Candidate, p = c.rest ∧ TestedAlone r destination amount before log b c)
      bs (cs.map Candidate.rest) := by
    rw [List.forall₂_map_right_iff, List.forall₂_and_left]
    exact ⟨fun b hb => hb, ht.imp fun b c hc => ⟨c, rfl, hc⟩⟩
  have hown : ∀ (b : ChainBalance) (p : Program Wallet.interface Route) l x,
      (b ∈ bs ∧ ∃ c : Candidate, p = c.rest ∧ TestedAlone r destination amount before log b c) →
      Ends p l x → ∀ e ∈ l, about b.chain e = true := by
    rintro b p l x ⟨hb, c, rfl, htest⟩ hx
    exact htest.rest_about (hc b hb) hx
  obtain ⟨bs', hperm, hall⟩ := h.apart_of_perm (fun b : ChainBalance => about b.chain) hp hk hown
    ((List.pairwise_map.1 hn).imp apart_about)
  have halone := Program.map_eq_of_forall₂ (f := fun b : ChainBalance => b.chain)
    (g := Route.source) (P := fun x => ∃ b ∈ bs, b.chain = x.source ∧ ∃ c,
      TestedAlone r destination amount before log b c ∧ Ends c.rest (l.filter (about x.source)) x)
    (hall.imp (by
      rintro b x ⟨p, ⟨hb, c, rfl, htest⟩, hx⟩
      have hsource : x.source = b.chain := by
        obtain ⟨past', mid, last, -, -, hends⟩ := htest
        exact ((tested_of_ends hends).rest_route hx).1
      rw [hsource]
      exact ⟨rfl, b, hb, rfl, c, htest, hx⟩))
  exact ⟨halone.1 ▸ hperm.map _, halone.2⟩

/-- The route is the one that its source gives by itself, with the cache entry that it had at first
and answered as the part of the log about it says. -/
def RoutedAlone (r : Router) (destination : Chain) (amount : Option Amount) (before : Cache)
    (log : List (Event Wallet.interface)) (x : Route) : Prop :=
  ∃ past mid after, Reached r.wallet past mid ∧ mid.find? x.source = before.find? x.source ∧
    Ends ((r.routeFrom destination amount x.source).run mid) (log.filter (about x.source))
      (x, after)

theorem TestedAlone.routed {b : ChainBalance} {c : Candidate} {x : Route}
    {l₁ l₂ l₃ : List (Event Wallet.interface)}
    (hb : Ends (readBalance r.settings.leastNative b.chain) (l₁.filter (about b.chain)) b)
    (hc : TestedAlone r destination amount before l₂ b c) (hs : b.chain = x.source)
    (hx : Ends c.rest (l₃.filter (about x.source)) x) :
    RoutedAlone r destination amount before (l₁ ++ (l₂ ++ l₃)) x := by
  obtain ⟨past, mid, last, hr, hfind, hends⟩ := hc
  rw [hs] at hb hfind hends
  refine ⟨past, mid, last, hr, hfind, ?_⟩
  rw [List.filter_append, List.filter_append, ← List.append_nil (l₃.filter _)]
  exact hb.bind (hends.bind (hx.bind (.done (x, last))))

/-- Where the chains of the wallet have different names, there is one route from each but the
destination, and each is the one that its source gives by itself. Of the destination only the
balances are read. -/
theorem Surveyed.alone {found : List Route}
    (h : Surveyed r destination amount before log found after)
    (hn : r.wallet.tokenChains.Nodup) (hr : Reached r.wallet past before) :
    (found.map (·.source)).Perm (r.wallet.tokenChains.filter (· != destination.name)) ∧
      (∀ x ∈ found, RoutedAlone r destination amount before log x) ∧
      (destination.name ∈ r.wallet.tokenChains → ∃ b,
        Ends (readBalance r.settings.leastNative destination.name)
          (log.filter (about destination.name)) b) := by
  cases h with
  | @mk _ _ l₁ l₂ l₃ balances candidates quoted _ hperm hread htried hqperm hquote =>
    obtain ⟨hnames, hbalances⟩ := balances_alone hread hperm hn
    have hsources := map_chain_sources destination hnames
    have hnodup : ((sources destination balances).map (·.chain)).Nodup :=
      hsources.nodup_iff.2 (hn.filter _)
    have hchain : ∀ b ∈ sources destination balances, ∃ chain : Chain, chain.name = b.chain := by
      intro b hb
      have hmem : b.chain ∈ balances.map (·.chain) :=
        List.mem_map_of_mem (mem_of_mem_sources hb).1
      exact (Wallet.mem_tokenChains.1 (hnames.mem_iff.1 hmem)).2
    have htests := htried.alone hr hchain hnodup
    obtain ⟨rests, hrests, hrest⟩ := allEnd_rest hqperm hquote
    obtain ⟨hroutes, halone⟩ := rests_alone hrest hrests htests hchain hnodup
    have hsorted : (sorted (settled candidates ++ quoted)).Perm (settled candidates ++ quoted) :=
      List.mergeSort_perm ..
    refine ⟨(hsorted.map _).trans (hroutes.trans hsources), fun x hx => ?_, fun hmem => ?_⟩
    · obtain ⟨b, hb, hs, c, htest, hends⟩ := halone x (List.mem_mergeSort.1 hx)
      exact htest.routed (hbalances b (mem_of_mem_sources hb).1) hs hends
    · obtain ⟨b, hb, hname⟩ := List.mem_map.1 (hnames.mem_iff.2 hmem)
      have hlater : (l₂ ++ l₃).filter (about destination.name) = [] := by
        refine Program.filter_eq_nil_of_apart ((sources destination balances).map (·.chain))
          (fun e he => ?_) (fun name hname => ?_)
        · rcases List.mem_append.1 he with he | he
          · exact htried.exists_about hchain e he
          · exact rests_exists_about hrest hrests htests hchain e he
        · obtain ⟨b', hb', rfl⟩ := List.mem_map.1 hname
          exact apart_about (mem_of_mem_sources hb').2.symm
      rw [List.filter_append, hlater, List.append_nil, ← hname]
      exact ⟨b, hbalances b hb⟩

end TokenBridge.Router
