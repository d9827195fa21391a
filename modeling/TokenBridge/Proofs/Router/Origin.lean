import TokenBridge.Proofs.Router.Source

/-!
# Where routes and requests come from

Whatever the names of its sources, every route of a survey comes from a source
that was read and tested (`Surveyed.origin`), and every request is a balance
query, the opening of a source's signer, or the quote of a source
(`Surveyed.asks`). An available route leaves its client in the cache
(`Surveyed.route`).
-/

namespace TokenBridge

open Bridge (Cache Kept)
open Bridge.Cache (Reached)
open Program (Ends)
open Wallet (readBalance)

namespace Router

variable {r : Router} {destination : Chain} {wanted : Option Amount} {before after : Cache}
  {log past : List (Event Wallet.interface)} {bs : List ChainBalance} {cs : List Candidate}
  {found : List Route} {b : ChainBalance} {c : Candidate} {x : Route}

/-! ## Tests in a row -/

theorem Tried.reached (h : Tried r destination wanted bs before log cs after)
    (hr : Reached r.wallet past before) : Reached r.wallet (past ++ log) after := by
  induction h generalizing past with
  | nil => exact hr.idle []
  | cons hb _ ih =>
    rw [← List.append_assoc]
    exact ih ((tested_of_ends hb).reached hr)

theorem Tried.find?_mono {key : String} {kept : Kept}
    (h : Tried r destination wanted bs before log cs after) (hk : before.find? key = some kept) :
    after.find? key = some kept := by
  induction h with
  | nil => exact hk
  | cons hb _ ih => exact ih ((tested_of_ends hb).find?_mono hk)

theorem Tried.asks {e : Event Wallet.interface}
    (h : Tried r destination wanted bs before log cs after) (he : e ∈ log) :
    ∃ b ∈ bs, e.request = .openSigner (Text.lowerCase b.chain) := by
  induction h with
  | nil => cases he
  | cons hb _ ih =>
    rcases List.mem_append.1 he with he | he
    · exact ⟨_, List.mem_cons_self, (tested_of_ends hb).asks he⟩
    · obtain ⟨b, hmem, hr⟩ := ih he
      exact ⟨b, List.mem_cons_of_mem _ hmem, hr⟩

theorem Tried.origin (h : Tried r destination wanted bs before log cs after)
    (hr : Reached r.wallet past before) (hc : c ∈ cs) :
    ∃ b ∈ bs, ∃ past mid l last, Reached r.wallet past mid ∧
      Tested r destination wanted b mid l c last ∧
      ∀ key kept, last.find? key = some kept → after.find? key = some kept := by
  induction h generalizing past with
  | nil => cases hc
  | cons hb h ih =>
    rcases List.mem_cons.1 hc with rfl | hc
    · exact ⟨_, List.mem_cons_self, past, _, _, _, hr, tested_of_ends hb,
        fun _ _ hk => h.find?_mono hk⟩
    · obtain ⟨b, hmem, h⟩ := ih ((tested_of_ends hb).reached hr) hc
      exact ⟨b, List.mem_cons_of_mem _ hmem, h⟩

/-! ## Routes -/

/-- A candidate comes from a source: a chain of the wallet other than the destination, whose
balances were read, and which was tested with a client that is kept until the end. -/
structure Origin (r : Router) (destination : Chain) (wanted : Option Amount) (after : Cache)
    (c : Candidate) (b : ChainBalance) : Prop where
  chain : b.chain ∈ r.wallet.tokenChains
  apart : b.chain ≠ destination.name
  read : ∃ l, Wallet.Read r.settings.leastNative b.chain l b
  tested : ∃ past mid l last, Reached r.wallet past mid ∧
    Tested r destination wanted b mid l c last ∧
    ∀ key kept, last.find? key = some kept → after.find? key = some kept

section Sources

variable {readings : List (Program Wallet.interface ChainBalance)} {balances : List ChainBalance}
  {l : List (Event Wallet.interface)}

theorem read_of_mem_sources
    (hp : readings.Perm (r.wallet.tokenChains.map (readBalance r.settings.leastNative)))
    (hb : Program.AllEnd readings l balances) (h : b ∈ sources destination balances) :
    b.chain ∈ r.wallet.tokenChains ∧ b.chain ≠ destination.name ∧
      ∃ l, Wallet.Read r.settings.leastNative b.chain l b := by
  obtain ⟨hmem, hne⟩ := mem_of_mem_sources h
  obtain ⟨p, hp', l', hl⟩ := hb.mem_result hmem
  obtain ⟨name, hname, rfl⟩ := List.mem_map.1 (hp.mem_iff.1 hp')
  have hread := Wallet.read_of_ends hl
  obtain rfl := hread.chain
  exact ⟨hname, hne, l', hread⟩

theorem origin_of_mem
    (hp : readings.Perm (r.wallet.tokenChains.map (readBalance r.settings.leastNative)))
    (hb : Program.AllEnd readings l balances)
    (h : Tried r destination wanted (sources destination balances) before log cs after)
    (hr : Reached r.wallet past before) (hc : c ∈ cs) :
    ∃ b, Origin r destination wanted after c b := by
  obtain ⟨b, hmem, htested⟩ := h.origin hr hc
  obtain ⟨hname, hne, hread⟩ := read_of_mem_sources hp hb hmem
  exact ⟨b, hname, hne, hread, htested⟩

end Sources

theorem mem_of_mem_settled (h : x ∈ settled cs) : .settled x ∈ cs := by
  obtain ⟨c, hc, heq⟩ := List.mem_filterMap.1 h
  cases c with
  | settled y =>
    cases heq
    exact hc
  | quoting => cases heq

theorem mem_of_mem_quoting {task : Program Wallet.interface Route} (h : task ∈ quoting cs) :
    .quoting task ∈ cs := by
  obtain ⟨c, hc, heq⟩ := List.mem_filterMap.1 h
  cases c with
  | settled => cases heq
  | quoting t =>
    cases heq
    exact hc

theorem Surveyed.origin (h : Surveyed r destination wanted before log found after)
    (hr : Reached r.wallet past before) (hx : x ∈ found) :
    ∃ c b l, Origin r destination wanted after c b ∧ Ends c.rest l x := by
  cases h with
  | mk hperm hread htried hqperm hquote =>
    rcases List.mem_append.1 (List.mem_mergeSort.1 hx) with hx | hx
    · obtain ⟨b, hb⟩ := origin_of_mem hperm hread htried hr (mem_of_mem_settled hx)
      exact ⟨_, b, [], hb, .done x⟩
    · obtain ⟨p, hp, l, hl⟩ := hquote.mem_result hx
      obtain ⟨b, hb⟩ := origin_of_mem hperm hread htried hr
        (mem_of_mem_quoting (hqperm.mem_iff.1 hp))
      exact ⟨_, b, l, hb, hl⟩

/-- Each event of a survey reads a balance, opens a signer, or is left to ask for a source that was
tested. -/
theorem Surveyed.event_cases {e : Event Wallet.interface}
    (h : Surveyed r destination wanted before log found after) (he : e ∈ log) :
    (∃ name, e.request = .tokenBalance name ∨ e.request = .nativeBalance name ∨
      e.request = .openSigner name) ∨
    ∃ b mid l c last l' x, Tested r destination wanted b mid l c last ∧ Ends c.rest l' x ∧
      e ∈ l' := by
  cases h with
  | mk hperm hread htried hqperm hquote =>
    rcases List.mem_append.1 he with he | he
    · obtain ⟨q, hq, b, -, l, hl, he⟩ := hread.mem_log he
      obtain ⟨name, -, rfl⟩ := List.mem_map.1 (hperm.mem_iff.1 hq)
      rcases (Wallet.read_of_ends hl).asks he with hreq | hreq
      · exact .inl ⟨_, .inl hreq⟩
      · exact .inl ⟨_, .inr (.inl hreq)⟩
    rcases List.mem_append.1 he with he | he
    · obtain ⟨b, -, hreq⟩ := htried.asks he
      exact .inl ⟨_, .inr (.inr hreq)⟩
    · obtain ⟨q, hq, x, -, l, hl, he⟩ := hquote.mem_log he
      obtain ⟨b, -, mid, l', last, htest⟩ :=
        Program.exists_key_of_forall₂ htried.tested (mem_of_mem_quoting (hqperm.mem_iff.1 hq))
      exact .inr ⟨b, mid, l', _, last, l, x, htest, hl, he⟩

theorem Surveyed.reached (h : Surveyed r destination wanted before log found after)
    (hr : Reached r.wallet past before) : Reached r.wallet (past ++ log) after := by
  cases h with
  | @mk _ _ l₁ l₂ l₃ _ _ _ _ _ _ htried =>
    rw [← List.append_assoc, ← List.append_assoc]
    exact (htried.reached (hr.idle l₁)).idle l₃

/-- A route is from a chain of the wallet to the destination. If it is available it has a fee, and
its client is kept. -/
theorem Surveyed.route (h : Surveyed r destination wanted before log found after)
    (hr : Reached r.wallet past before) (hx : x ∈ found) :
    ∃ source : Chain, source.name = x.source ∧ source ≠ destination ∧
      x.destination = destination.name ∧ x.seconds = Chain.deliveryTime source destination ∧
      (x.available = true → (∃ fee, x.nativeFee = some fee) ∧
        ∃ kept, after.find? x.source = some kept) := by
  obtain ⟨c, b, l, hb, hends⟩ := h.origin hr hx
  obtain ⟨past', mid, l', last, hr', htest, hmono⟩ := hb.tested
  obtain ⟨hsource, hdest, -, hseconds, havail⟩ := htest.rest_route hends
  obtain ⟨source, hname⟩ := (Wallet.mem_tokenChains.1 hb.chain).2
  refine ⟨source, hname.trans hsource.symm, ?_, hdest, ?_, ?_⟩
  · rintro rfl
    exact hb.apart hname.symm
  · rw [hseconds, ← hname, Chain.estimatedDelivery, Chain.lookup_name, Chain.lookup_name]
  · intro ha
    obtain ⟨hfee, kept, hk⟩ := havail ha
    rw [← hname, Chain.lowerCase_name, hname] at hk
    exact ⟨hfee, kept, hsource ▸ hmono _ _ hk⟩

/-! ## Requests -/

/-- What a survey asks: the balances of the wallet's chains, the signers of the sources, and for a
source the quote of what is wanted, else of all that it holds. -/
def Inquires (r : Router) (destination : Chain) (wanted : Option Amount) (found : List Route) :
    Wallet.Request → Prop
  | .tokenBalance name | .nativeBalance name => name ∈ r.wallet.tokenChains
  | .openSigner name => name ∈ r.wallet.tokenChains ∧ name ≠ destination.name
  | .onSigner _ (.read contract call) => ∃ source : Chain, ∃ x ∈ found, source.name = x.source ∧
      contract = source.token ∧
      call = .quoteSend (r.quoteParam destination (wanted.getD x.amount)) false
  | .onSigner _ _ => False

theorem Origin.asks {l : List (Event Wallet.interface)} {e : Event Wallet.interface}
    (h : Origin r destination wanted after c b) (hw : wanted ≠ some 0) (hx : Ends c.rest l x)
    (hmem : x ∈ found) (he : e ∈ l) : Inquires r destination wanted found e.request := by
  obtain ⟨past', mid, l', last, hr', htest, -⟩ := h.tested
  obtain ⟨hsource, -, hamount, -⟩ := htest.rest_route hx
  obtain ⟨source, hname⟩ := (Wallet.mem_tokenChains.1 h.chain).2
  obtain ⟨l₀, hread⟩ := h.read
  cases htest with
  | refused | clientless =>
    obtain ⟨rfl, -⟩ := Program.ends_done.1 hx
    cases he
  | @left _ kept _ hno hgot =>
    obtain ⟨l₁, y, rfl, hq, -⟩ := ends_quoteRoute hx
    obtain ⟨e₁, he₁, rfl⟩ := List.mem_map.1 he
    obtain ⟨d, param, hplan, hreq⟩ := hq.asks he₁
    rw [← hname] at hread
    obtain ⟨hchain, hplan'⟩ := plan_of_got hno hgot hread hr'
      (fun heq => h.apart (hname ▸ congrArg Chain.name heq)) hw
    cases hplan.symm.trans hplan'
    change Inquires r destination wanted found (.onSigner kept.signer e₁.request)
    rw [hreq, ← hamount]
    exact ⟨source, x, hmem, hname.trans hsource.symm, congrArg Chain.token hchain, rfl⟩

/-- Nothing is asked but balances, signers and quotes. -/
theorem Surveyed.asks {e : Event Wallet.interface}
    (h : Surveyed r destination wanted before log found after) (hr : Reached r.wallet past before)
    (hw : wanted ≠ some 0) (he : e ∈ log) : Inquires r destination wanted found e.request := by
  cases h with
  | @mk _ _ l₁ l₂ l₃ _ _ _ _ hperm hread htried hqperm hquote =>
    rcases List.mem_append.1 he with he | he
    · obtain ⟨p, hp, b, -, l, hl, he⟩ := hread.mem_log he
      obtain ⟨name, hname, rfl⟩ := List.mem_map.1 (hperm.mem_iff.1 hp)
      rcases (Wallet.read_of_ends hl).asks he with hreq | hreq <;> rw [hreq] <;> exact hname
    rcases List.mem_append.1 he with he | he
    · obtain ⟨b, hb, hreq⟩ := htried.asks he
      obtain ⟨hname, hne, -⟩ := read_of_mem_sources hperm hread hb
      obtain ⟨chain, hchain⟩ := (Wallet.mem_tokenChains.1 hname).2
      rw [hreq, ← hchain, Chain.lowerCase_name, hchain]
      exact ⟨hname, hne⟩
    · obtain ⟨p, hp, x, hx, l, hl, he⟩ := hquote.mem_log he
      obtain ⟨b, hb⟩ := origin_of_mem hperm hread htried hr
        (mem_of_mem_quoting (hqperm.mem_iff.1 hp))
      exact hb.asks hw hl (List.mem_mergeSort.2 (List.mem_append_right _ hx)) he

end Router

end TokenBridge
