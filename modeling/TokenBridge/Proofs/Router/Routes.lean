import TokenBridge.Proofs.Router.Inquiries
import TokenBridge.Proofs.Router.Origin
import TokenBridge.Proofs.Router.Survey

/-!
# The routes of a wallet

`Lists` says what a survey comes to: one route from each configured chain that
carries the token, the destination aside, in the order of their names, each
judged by what was answered about its own chain; and each chain was asked about
just as what is known of it in the end calls for. A wallet that has no chain under
two names gets such a list for every destination, whoever answers
(`routes_listed`).
-/

namespace TokenBridge.Router

open Bridge (Cache)
open Bridge.Cache (Reached)
open Wallet (about)

variable {r r' : Router} {destination : Chain} {wanted : Option Amount}
  {before after cache cache' : Cache} {log log' past : List (Event Wallet.interface)}
  {found found' : List Route} {x : Route}

/-- What is known of the source of a route after a survey. -/
def findingOf (r : Router) (cache : Cache) (log : List (Event Wallet.interface)) (source : String) :
    Finding := Finding.of r.wallet cache source (log.filter (about source))

/-- A list of routes to a destination, for a survey with this log. -/
structure Lists (r : Router) (cache : Cache) (destination : Chain) (wanted : Option Amount)
    (log : List (Event Wallet.interface)) (found : List Route) : Prop where
  sorted : (found.map (·.source)).Pairwise (· < ·)
  /-- There is a route from a source if it is a chain that the wallet is configured for. -/
  sources : ∀ source, source ∈ found.map (·.source) ↔
    source ∈ r.wallet.configured.map Text.lowerCase ∧
      ∃ chain : Chain, chain.name = source ∧ chain ≠ destination
  judged : ∀ x ∈ found, Judged (r.findingOf cache log x.source) destination r.settings.leastNative
    wanted x
  asks : ∀ e ∈ log, Inquires r destination wanted found e.request
  /-- About a chain of the wallet all of this is asked and nothing else; about the destination, just
  its balances. -/
  asked : ∀ chain : Chain, chain.name ∈ r.wallet.configured.map Text.lowerCase →
    (log.filter (about chain.name)).map (·.request) =
      if chain = destination then (r.findingOf cache log chain.name).balanceReads
      else r.inquiries cache destination wanted chain (r.findingOf cache log chain.name)

/-- A source of which two surveys know the same has one route in both, whatever they know of
others. -/
theorem Lists.mem_of_findingOf_eq (h : Lists r cache destination wanted log found)
    (h' : Lists r' cache' destination wanted log' found') (hx : x ∈ found)
    (hl : r'.settings.leastNative = r.settings.leastNative)
    (hs : x.source ∈ r'.wallet.configured.map Text.lowerCase)
    (hf : r'.findingOf cache' log' x.source = r.findingOf cache log x.source) : x ∈ found' := by
  have hchain := ((h.sources x.source).1 (List.mem_map_of_mem hx)).2
  obtain ⟨y, hy, hyx⟩ := List.mem_map.1 ((h'.sources x.source).2 ⟨hs, hchain⟩)
  have hjudged := h'.judged y hy
  rw [hyx, hf, hl] at hjudged
  rwa [(h.judged x hx).unique hjudged]

/-! ## Surveys -/

theorem Surveyed.pairwise_lt (h : Surveyed r destination wanted before log found after)
    (hn : (found.map (·.source)).Nodup) : (found.map (·.source)).Pairwise (· < ·) := by
  cases h
  exact Chain.pairwise_lt_mergeSort Route.source (((List.mergeSort_perm ..).map _).nodup_iff.1 hn)

theorem Surveyed.lists (h : Surveyed r destination wanted before log found after)
    (hw : (r.wallet.configured.map Text.lowerCase).Nodup) (hr : Reached r.wallet past before)
    (ha : wanted ≠ some 0) : Lists r before destination wanted log found := by
  have hn := Wallet.nodup_tokenChains hw
  obtain ⟨hperm, halone, hdest⟩ := h.alone hn hr
  refine ⟨h.pairwise_lt (hperm.nodup_iff.2 (hn.filter _)), ?_, ?_, fun e he => h.asks hr ha he,
    fun chain hconfigured => ?_⟩
  · intro source
    rw [hperm.mem_iff, List.mem_filter, Wallet.mem_tokenChains, bne_iff_ne]
    constructor
    · rintro ⟨⟨hmem, chain, rfl⟩, hne⟩
      exact ⟨hmem, chain, rfl, fun heq => hne (congrArg _ heq)⟩
    · rintro ⟨hmem, chain, rfl, hne⟩
      exact ⟨⟨hmem, chain, rfl⟩, fun heq => hne (Chain.name_injective heq)⟩
  · intro x hx
    obtain ⟨source, hname, hne, -⟩ := h.route hr hx
    obtain ⟨past', mid, last, hr', hfind, hends⟩ := halone x hx
    rw [← hname] at hfind hends
    rw [findingOf, ← hname]
    exact judged_of_routeFrom hends hr' hfind hne ha
  · have hmem := Wallet.mem_tokenChains.2 ⟨hconfigured, chain, rfl⟩
    split
    · next heq =>
      subst heq
      obtain ⟨b, hends⟩ := hdest hmem
      exact balanceReads_of_readBalance hends
    · next hne =>
      have hsource : chain.name ∈ found.map (·.source) := hperm.mem_iff.2
        (List.mem_filter.2 ⟨hmem, bne_iff_ne.2 fun heq => hne (Chain.name_injective heq)⟩)
      obtain ⟨x, hx, hname⟩ := List.mem_map.1 hsource
      obtain ⟨past', mid, last, hr', hfind, hends⟩ := halone x hx
      rw [hname] at hfind hends
      exact inquiries_of_routeFrom hends hr' hfind hne ha

section Runs

variable {σ : Type} (h : Handler Wallet.interface σ) (order : Arrangement) {name : String}

theorem exists_lists_run (hw : (r.wallet.configured.map Text.lowerCase).Nodup)
    (hc : Reached r.wallet past cache) (hd : Chain.lookup name = some destination)
    (amount : Option Amount) (now : Nat) (s : σ) :
    let run := Flow.run h order ((ExceptT.run (r.routes name amount)).run cache) now s
    ∃ found, run.result.1 = .ok found ∧
      Lists r cache destination (amount.filter (· != 0)) run.events found := by
  intro run
  have hrun : Work.Ends (r.routes name amount) cache run.events run.result.1 run.result.2 :=
    Flow.ends_run h order _ now s
  have hwanted : amount.filter (· != 0) ≠ some 0 := by
    intro heq
    have := (Option.filter_eq_some_iff.1 heq).2
    cases this
  rcases surveyed_of_ends hrun with ⟨hno, -⟩ | ⟨d, found, hd', hy, hs⟩
  · cases hno.symm.trans hd
  · obtain rfl : d = destination := Option.some.inj (hd'.symm.trans hd)
    exact ⟨found, hy, hs.lists hw hc hwanted⟩

/-- Whoever answers, a survey of a supported destination lists the routes to it, and a route does
not change with what is answered about other chains. -/
theorem routes_listed (hw : (r.wallet.configured.map Text.lowerCase).Nodup)
    (hc : Reached r.wallet past cache) (hd : Chain.lookup name = some destination)
    (amount : Option Amount) (now : Nat) (s : σ) :
    let run := Flow.run h order ((ExceptT.run (r.routes name amount)).run cache) now s
    let wanted := amount.filter (· != 0)
    ∃ found, run.result.1 = .ok found ∧ Lists r cache destination wanted run.events found ∧
      ∀ {τ : Type} (h' : Handler Wallet.interface τ) (order' : Arrangement) (r' : Router)
        (past' : List (Event Wallet.interface)) (cache' : Cache) (now' : Nat) (s' : τ),
        let run' := Flow.run h' order' ((ExceptT.run (r'.routes name amount)).run cache') now' s'
        (r'.wallet.configured.map Text.lowerCase).Nodup → Reached r'.wallet past' cache' →
        r'.settings.leastNative = r.settings.leastNative →
        ∀ x ∈ found, x.source ∈ r'.wallet.configured.map Text.lowerCase →
          r'.findingOf cache' run'.events x.source = r.findingOf cache run.events x.source →
          ∃ found', run'.result.1 = .ok found' ∧ x ∈ found' := by
  intro run wanted
  obtain ⟨found, hy, hl⟩ := exists_lists_run h order hw hc hd amount now s
  refine ⟨found, hy, hl, ?_⟩
  intro τ h' order' r' past' cache' now' s' run' hw' hc' hleast x hx hs hf
  obtain ⟨found', hy', hl'⟩ := exists_lists_run h' order' hw' hc' hd amount now' s'
  exact ⟨found', hy', hl.mem_of_findingOf_eq hl' hx hleast hs hf⟩

/-- Chains hold 5, but the balance of Ink cannot be read, and a quote costs 7. -/
def inkDownAnswers : (q : Wallet.Request) → Wallet.interface.Answer q
  | .tokenBalance name => if name = "ink" then Except.error (.of "timed out") else Except.ok 5
  | .nativeBalance _ => Except.ok 2000000000000000
  | .openSigner name => Except.ok ⟨name, .zero⟩
  | .onSigner _ (.read ..) => Except.ok (.fee ⟨7, 0⟩)
  | .onSigner _ (.write ..) => Except.error (.of "not asked")
  | .onSigner _ (.wait _) => Except.error (.of "not asked")

/-- A wallet on Arbitrum and Ink can go to Unichain from the one at the quoted fee, and not from the
other, whose balance cannot be read. -/
theorem routes_listed_from_two_chains :
    let r : Router := ⟨⟨.zero, ["Arbitrum", "ink"], fun _ => true⟩, .default⟩
    let run := Flow.run (Handler.ofAnswers (I := Wallet.interface) inkDownAnswers) .reversed
      ((ExceptT.run (r.routes "UNICHAIN" none)).run .empty) 0 ()
    ((r.wallet.configured.map Text.lowerCase).Nodup ∧ Reached r.wallet [] .empty ∧
      Chain.lookup "UNICHAIN" = some .unichain) ∧
    ∃ found, run.result.1 = .ok found ∧
      (∀ source, source ∈ found.map (·.source) ↔ source = "arbitrum" ∨ source = "ink") ∧
      ∀ x ∈ found, (x.source, x.available, x.nativeFee, x.reason) =
          ("arbitrum", true, some 7, none) ∨
        (x.source, x.available, x.nativeFee, x.reason) =
          ("ink", false, none, some "insufficient USDT0 balance") := by
  intro r run
  have hnames : r.wallet.configured.map Text.lowerCase = ["arbitrum", "ink"] := by decide +kernel
  have hw : (r.wallet.configured.map Text.lowerCase).Nodup := by
    rw [hnames]
    decide
  have hd : Chain.lookup "UNICHAIN" = some .unichain := by decide +kernel
  obtain ⟨found, hy, hl, -⟩ := routes_listed (Handler.ofAnswers (I := Wallet.interface)
    inkDownAnswers) .reversed hw .empty hd none 0 ()
  have hsources : ∀ source, source ∈ found.map (·.source) ↔
      source = "arbitrum" ∨ source = "ink" := by
    intro source
    rw [hl.sources, hnames]
    constructor
    · rintro ⟨hmem, -⟩
      simpa using hmem
    · rintro (rfl | rfl)
      · exact ⟨by decide, .arbitrum, rfl, by decide⟩
      · exact ⟨by decide, .ink, rfl, by decide⟩
  have hknown := fun (source : Chain) hs hne => Finding.of_answeredBy rfl
    ((hl.asked source hs).trans (if_neg hne)) fun e he => Flow.answeredBy_run
      (Handler.gives_ofAnswers (I := Wallet.interface) inkDownAnswers) .reversed _ 0 () e
      (List.mem_filter.1 he).1
  refine ⟨⟨hw, .empty, hd⟩, found, hy, hsources, fun x hx => ?_⟩
  have hjudged := hl.judged x hx
  rcases (hsources x.source).1 (List.mem_map_of_mem hx) with hsource | hsource
  · obtain ⟨ht, hn, hq⟩ := hknown .arbitrum (by rw [hnames]; decide) (by decide)
    have hn := hn (by rw [ht]; rfl)
    obtain ⟨hs, hv⟩ := hq (by
      simp only [Finding.balanceConditions, Finding.isRead, Finding.held, Finding.gas, ht, hn]
      decide)
    have hs := hs rfl rfl
    have hv := hv ⟨"arbitrum", .zero⟩ (by rw [Finding.quoter?, hs]; rfl)
    have hfinding : r.findingOf .empty run.events "arbitrum" = ⟨"arbitrum", false, true, .ok 5,
        .ok 2000000000000000, .ok ⟨"arbitrum", .zero⟩, .ok (.fee ⟨7, 0⟩)⟩ :=
      Finding.ext rfl rfl rfl ht hn hs hv
    rw [hsource, hfinding] at hjudged
    rw [hjudged.unique (.quoted (by decide) rfl)]
    exact .inl rfl
  · obtain ⟨ht, -⟩ := hknown .ink (by rw [hnames]; decide) (by decide)
    have hfirst : ((r.findingOf .empty run.events "ink").conditions r.settings.leastNative
        (none.filter (· != 0))).find? (!·.1) = some (false, "insufficient USDT0 balance") := by
      have hread : (r.findingOf .empty run.events "ink").isRead = false :=
        Bool.and_eq_false_iff.2 (.inl (congrArg Except.toBool ht))
      rw [Finding.conditions, Finding.balanceConditions, hread]
      rfl
    rw [hsource] at hjudged
    rw [hjudged.unique (.unavailable hfirst)]
    exact .inr rfl

end Runs

end TokenBridge.Router
