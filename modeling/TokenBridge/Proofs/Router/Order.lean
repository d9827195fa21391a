import TokenBridge.Proofs.Program.Answered
import TokenBridge.Proofs.Router.AutoBridge
import TokenBridge.Proofs.Router.Survey

/-!
# The order of finishing

Balances and quotes are listed in the order in which the tasks finish, and then
sorted by chain. Where no two chains have one name, and each request has one
answer, the sorted list is the same in every order. So are the summary of the
balances, the routes, and whatever an automatic transfer does with them
(`order_irrelevant`). Ties between routes are broken by their place in a list
that is the same.
-/

namespace TokenBridge.Router

open Bridge (Cache Kept)
open Bridge.Cache (Got)
open Program (AllEnd Ends)
open Wallet (readBalance)

variable {α β : Type} {r : Router} {p : AutoParams} {destination : Chain} {amount : Option Amount}
  {before after after' cache : Cache} {log log' : List (Event Wallet.interface)}
  {answers : (q : Wallet.Request) → Wallet.interface.Answer q}

/-! ## Work -/

/-- Work that starts with a cache comes to one result and one cache, in whichever order spawned
programs finish. -/
def Work.Settled (answers : (q : Wallet.Request) → Wallet.interface.Answer q) (x : Work α)
    (before : Cache) : Prop :=
  Flow.Settled answers ((ExceptT.run x).run before)

theorem Work.Settled.eq {x : Work α} {y y' : Except BridgeError α} (hx : x.Settled answers before)
    (ha : AnsweredBy answers log) (ha' : AnsweredBy answers log')
    (h : Work.Ends x before log y after) (h' : Work.Ends x before log' y' after') :
    y = y' ∧ after = after' :=
  Prod.mk.inj (hx ha ha' h h')

theorem Work.Settled.bind {x : Work α} {f : α → Work β} (hx : x.Settled answers before)
    (hf : ∀ a mid, (f a).Settled answers mid) : (x >>= f).Settled answers before := by
  refine Flow.Settled.bind hx ?_
  rintro ⟨e | a, mid⟩
  · exact Flow.settled_done _
  · exact hf a mid

theorem Work.settled_ofExcept (x : Except BridgeError α) : (ofExcept x).Settled answers before :=
  Flow.settled_done _

theorem Work.settled_client (name : String) : (r.client name).Settled answers before :=
  Flow.settled_ofProgram _

theorem Work.settled_ofFlow {x : Flow Wallet.interface α} (hx : x.Settled answers) :
    (ofFlow x).Settled answers before := by
  rintro log log' ⟨y, after⟩ ⟨y', after'⟩ ha ha' h h'
  obtain ⟨a, rfl, rfl, hends⟩ := Work.ends_ofFlow h
  obtain ⟨a', rfl, rfl, hends'⟩ := Work.ends_ofFlow h'
  rw [hx ha ha' hends hends']

theorem Work.settled_through (kept : Kept) (x : Bridge.Client.Work α) :
    (through kept x).Settled answers before :=
  (Work.settled_ofFlow (Flow.settled_ofProgram _)).bind fun _ _ => Work.settled_ofExcept _

theorem settled_bridge (t : Transfer.SendParams) : (r.bridge t).Settled answers before :=
  (Work.settled_client _).bind fun kept _ => Work.settled_through kept _

theorem settled_execute (found : List Route) : (r.execute p found).Settled answers before := by
  cases hsel : Route.select found (p.strategy.getD r.settings.strategy) p.preferred with
  | none =>
    rw [execute_of_select_eq_none hsel]
    exact Work.settled_ofExcept _
  | some route =>
    rw [execute_of_select_eq_some hsel]
    exact (settled_bridge _).bind fun _ _ => Work.settled_ofExcept (.ok _)

/-! ## Balances -/

section Balances

variable {leastNative : Amount} {w : Wallet} {balances balances' : List ChainBalance}
  {readings : List (Program Wallet.interface ChainBalance)}

/-- The entries that the answers give, in the order in which the wallet lists its chains. -/
def entries (answers : (q : Wallet.Request) → Wallet.interface.Answer q) (leastNative : Amount)
    (w : Wallet) : List ChainBalance :=
  w.tokenChains.map fun name => (readBalance leastNative name).value answers

theorem map_chain_entries : (entries answers leastNative w).map (·.chain) = w.tokenChains := by
  rw [entries, List.map_map]
  refine List.map_id'' (fun name => ?_) _
  obtain ⟨log, h⟩ := Program.ends_value answers (readBalance leastNative name)
  exact (Wallet.read_of_ends h).chain

theorem perm_entries (h : AllEnd readings log balances)
    (hp : readings.Perm (w.tokenChains.map (readBalance leastNative)))
    (ha : AnsweredBy answers log) : balances.Perm (entries answers leastNative w) := by
  rw [h.eq_map_value ha]
  exact (hp.map _).trans (.of_eq (List.map_map ..))

theorem map_chain_perm (h : balances.Perm (entries answers leastNative w)) :
    (balances.map (·.chain)).Perm w.tokenChains :=
  (h.map _).trans (.of_eq map_chain_entries)

theorem sorted_balances_eq (hn : w.tokenChains.Nodup)
    (h : balances.Perm (entries answers leastNative w))
    (h' : balances'.Perm (entries answers leastNative w)) :
    BalanceSummary.sorted balances = BalanceSummary.sorted balances' :=
  Chain.mergeSort_eq_of_perm ChainBalance.chain (h.trans h'.symm)
    ((map_chain_perm h).nodup_iff.2 hn)

theorem settled_balances (hn : r.wallet.tokenChains.Nodup) : r.balances.Settled answers := by
  intro log log' s s' ha ha' h h'
  obtain ⟨balances, l₁, l₂, rfl, hread, hs⟩ := Flow.ends_bind h
  obtain ⟨balances', l₁', l₂', rfl, hread', hs'⟩ := Flow.ends_bind h'
  obtain ⟨-, rfl⟩ := Flow.ends_done.1 hs
  obtain ⟨-, rfl⟩ := Flow.ends_done.1 hs'
  obtain ⟨readings, hp, hread⟩ := Flow.ends_all.1 hread
  obtain ⟨readings', hp', hread'⟩ := Flow.ends_all.1 hread'
  have hsorted := sorted_balances_eq hn
    (perm_entries hread hp (answeredBy_append.1 ha).1)
    (perm_entries hread' hp' (answeredBy_append.1 ha').1)
  simp only [BalanceSummary.ofBalances, hsorted]

end Balances

/-! ## Routes -/

variable {bs : List ChainBalance} {cs cs' : List Candidate}

/-- The sources are tested one after the other, so the answers tell the candidates. -/
theorem Tried.unique (h : Tried r destination amount bs before log cs after)
    (h' : Tried r destination amount bs before log' cs' after')
    (ha : AnsweredBy answers log) (ha' : AnsweredBy answers log') : cs = cs' ∧ after = after' := by
  induction h generalizing log' cs' after' with
  | nil =>
    cases h'
    exact ⟨rfl, rfl⟩
  | cons hb _ ih =>
    cases h' with
    | cons hb' h' =>
      obtain ⟨ha₁, ha₂⟩ := answeredBy_append.1 ha
      obtain ⟨ha₁', ha₂'⟩ := answeredBy_append.1 ha'
      obtain ⟨rfl, rfl⟩ := Prod.mk.inj ((hb.eq_value ha₁).trans (hb'.eq_value ha₁').symm)
      obtain ⟨rfl, rfl⟩ := ih h' ha₂ ha₂'
      exact ⟨rfl, rfl⟩

/-- The routes that the answers give for candidates, in their order. -/
def outcomes (answers : (q : Wallet.Request) → Wallet.interface.Answer q) (cs : List Candidate) :
    List Route :=
  cs.map fun c => c.rest.value answers

theorem perm_outcomes {quotes : List (Program Wallet.interface Route)} {quoted : List Route}
    (hp : quotes.Perm (quoting cs)) (h : AllEnd quotes log quoted) (ha : AnsweredBy answers log) :
    (settled cs ++ quoted).Perm (outcomes answers cs) := by
  obtain ⟨rests, hrests, hrest⟩ := allEnd_rest hp h
  rw [hrest.eq_map_value ha]
  exact (hrests.map _).trans (.of_eq (List.map_map ..))

theorem Tried.map_source_outcomes (h : Tried r destination amount bs before log cs after) :
    (outcomes answers cs).map (·.source) = bs.map (·.chain) := by
  have htested := h.tested
  clear h
  induction htested with
  | nil => rfl
  | @cons b c bs cs hb _ ih =>
    obtain ⟨mid, l, last, hb⟩ := hb
    obtain ⟨l', hrest⟩ := Program.ends_value answers c.rest
    exact congrArg₂ List.cons (hb.rest_route hrest).1 ih

theorem Surveyed.unique {found found' : List Route} (hn : r.wallet.tokenChains.Nodup)
    (h : Surveyed r destination amount before log found after)
    (h' : Surveyed r destination amount before log' found' after')
    (ha : AnsweredBy answers log) (ha' : AnsweredBy answers log') :
    found = found' ∧ after = after' := by
  cases h with
  | @mk readings quotes l₁ l₂ l₃ balances candidates quoted _ hperm hread htried hqperm hquote =>
  cases h' with
  | @mk readings' quotes' l₁' l₂' l₃' balances' candidates' quoted' _ hperm' hread' htried' hqperm'
      hquote' =>
  obtain ⟨ha₁, ha₂⟩ := answeredBy_append.1 ha
  obtain ⟨ha₂, ha₃⟩ := answeredBy_append.1 ha₂
  obtain ⟨ha₁', ha₂'⟩ := answeredBy_append.1 ha'
  obtain ⟨ha₂', ha₃'⟩ := answeredBy_append.1 ha₂'
  have hbalances := perm_entries hread hperm ha₁
  have hsources : sources destination balances' = sources destination balances := by
    rw [sources, sources, sorted_balances_eq hn (perm_entries hread' hperm' ha₁') hbalances]
  rw [hsources] at htried'
  obtain ⟨rfl, rfl⟩ := htried.unique htried' ha₂ ha₂'
  have hroutes := perm_outcomes hqperm hquote ha₃
  have hnodup : ((settled candidates ++ quoted).map Route.source).Nodup := by
    refine (hroutes.map _).nodup_iff.2 ?_
    rw [htried.map_source_outcomes]
    exact (map_chain_sources destination (map_chain_perm hbalances)).nodup_iff.2 (hn.filter _)
  exact ⟨Chain.mergeSort_eq_of_perm Route.source
    (hroutes.trans (perm_outcomes hqperm' hquote' ha₃').symm) hnodup, rfl⟩

theorem settled_routes (hn : r.wallet.tokenChains.Nodup) (name : String) (amount : Option Amount)
    (before : Cache) : (r.routes name amount).Settled answers before := by
  rintro log log' ⟨y, after⟩ ⟨y', after'⟩ ha ha' h h'
  rcases surveyed_of_ends h with ⟨hd, -, rfl, rfl⟩ | ⟨d, found, hd, rfl, hs⟩
  · rcases surveyed_of_ends h' with ⟨-, -, rfl, rfl⟩ | ⟨_, _, hd', -⟩
    · rfl
    · cases hd.symm.trans hd'
  · rcases surveyed_of_ends h' with ⟨hd', -⟩ | ⟨d', found', hd', rfl, hs'⟩
    · cases hd.symm.trans hd'
    · cases hd.symm.trans hd'
      obtain ⟨rfl, rfl⟩ := hs.unique hn hs' ha ha'
      rfl

/-! ## Automatic transfers -/

/-- An automatic transfer with this survey picks the route, or none. -/
def Picks (r : Router) (p : AutoParams) (cache : Cache) (survey : List (Event Wallet.interface))
    (picked : Option Route) : Prop :=
  ∃ found mid, Work.Ends (r.routes p.destination (some p.amount)) cache survey (.ok found) mid ∧
    Route.select found (p.strategy.getD r.settings.strategy) p.preferred = picked

theorem settled_autoBridge (hn : r.wallet.tokenChains.Nodup) (p : AutoParams) (cache : Cache) :
    (r.autoBridge p).Settled answers cache := by
  by_cases hamount : p.amount = 0
  · rw [autoBridge_of_amount_eq_zero hamount]
    exact Work.settled_ofExcept _
  · rw [autoBridge_eq hamount]
    exact (settled_routes hn _ _ _).bind fun found _ => settled_execute found

theorem exists_picks {y : Except BridgeError AutoResult} (hamount : p.amount ≠ 0)
    (hd : Chain.isSupported p.destination = true)
    (h : Work.Ends (r.autoBridge p) cache log y after) :
    ∃ survey picked, survey <+: log ∧ r.Picks p cache survey picked := by
  rw [autoBridge_eq hamount] at h
  rcases Work.ends_bind h with ⟨e, h₁, -⟩ | ⟨found, mid, l, l', rfl, h₁, -⟩
  · rw [Chain.isSupported, (refused_of_ends_error h₁).1] at hd
    cases hd
  · exact ⟨l, _, List.prefix_append .., found, mid, h₁, rfl⟩

theorem Picks.unique {survey survey' : List (Event Wallet.interface)}
    {picked picked' : Option Route} (hn : r.wallet.tokenChains.Nodup)
    (h : r.Picks p cache survey picked)
    (h' : r.Picks p cache survey' picked') (ha : AnsweredBy answers survey)
    (ha' : AnsweredBy answers survey') : picked = picked' := by
  obtain ⟨found, mid, hends, rfl⟩ := h
  obtain ⟨found', mid', hends', rfl⟩ := h'
  obtain ⟨heq, -⟩ := (settled_routes hn _ _ _).eq ha ha' hends hends'
  rw [Except.ok.inj heq]

/-- Where no two configured chains have one name and each request has one answer, the order in
which tasks finish makes no difference: to the summary of the balances, to the routes, to the route
that an automatic transfer picks after its survey, and to what the transfer comes to. -/
theorem order_irrelevant (hn : (r.wallet.configured.map Text.lowerCase).Nodup)
    (answers : (q : Wallet.Request) → Wallet.interface.Answer q) (cache : Cache) :
    r.balances.Settled answers ∧
    (∀ name amount, (r.routes name amount).Settled answers cache) ∧
    ∀ p : AutoParams, (r.autoBridge p).Settled answers cache ∧
      (p.amount ≠ 0 → Chain.isSupported p.destination = true →
        ∀ log y after, Work.Ends (r.autoBridge p) cache log y after →
          ∃ survey picked, survey <+: log ∧ r.Picks p cache survey picked) ∧
      ∀ survey survey' picked picked', AnsweredBy answers survey → AnsweredBy answers survey' →
        r.Picks p cache survey picked → r.Picks p cache survey' picked' → picked = picked' := by
  have hchains := Wallet.nodup_tokenChains hn
  refine ⟨settled_balances hchains, fun name amount => settled_routes hchains name amount cache,
    fun p => ⟨settled_autoBridge hchains p cache, ?_, ?_⟩⟩
  · exact fun hamount hd log y after h => exists_picks hamount hd h
  · exact fun _ _ _ _ ha ha' h h' => h.unique hchains h' ha ha'

/-- The answers of a wallet whose chains hold the same, quote the same fee and submit nothing. -/
def evenAnswers (token native fee : Amount) : (q : Wallet.Request) → Wallet.interface.Answer q
  | .tokenBalance _ => Except.ok token
  | .nativeBalance _ => Except.ok native
  | .openSigner name => Except.ok (⟨name, .zero⟩ : Wallet.ChainSigner)
  | .onSigner _ (.read ..) => Except.ok (Contract.Value.fee ⟨fee, 0⟩)
  | .onSigner _ (.write ..) => Except.error (.of "refused")
  | .onSigner _ (.wait _) => Except.error (.of "unknown transaction")

/-- Two chains that quote the same fee are listed alike, whichever is read and quoted first. -/
theorem order_irrelevant_to_even_chains :
    let w : Wallet := ⟨.zero, ["ink", "arbitrum"], fun _ => true⟩
    let r : Router := ⟨w, .default⟩
    let h := Handler.ofAnswers (I := Wallet.interface) (evenAnswers 5 2000000000000000 7)
    let survey := (ExceptT.run (r.routes "unichain" (some 3))).run .empty
    (r.wallet.configured.map Text.lowerCase).Nodup ∧
      (survey.run h .asSpawned 0 ()).result = (survey.run h .reversed 0 ()).result := by
  intro w r h survey
  have hn : (r.wallet.configured.map Text.lowerCase).Nodup := by decide +kernel
  obtain ⟨-, hroutes, -⟩ := order_irrelevant hn (evenAnswers 5 2000000000000000 7) .empty
  have hg := Handler.gives_ofAnswers (I := Wallet.interface) (evenAnswers 5 2000000000000000 7)
  exact ⟨hn, (hroutes "unichain" (some 3)).run_result hg hg .asSpawned .reversed 0 0 () ()⟩

end TokenBridge.Router
