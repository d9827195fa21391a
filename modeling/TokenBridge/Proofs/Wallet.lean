import TokenBridge.Balance
import TokenBridge.Proofs.Chain
import TokenBridge.Proofs.Program.Spawned

/-!
# Requests by chain

Every request that a wallet is asked is about one chain: the chain that is named,
or the one whose token contract is called. Events about different names are apart
(`apart_about`), so a log can be read chain by chain. `Read` lists how the two
balances of a chain come out, and chains that are read at once are read each by
itself (`balances_alone`).
-/

namespace TokenBridge.Wallet

open Program (AllEnd Ends)

variable {α : Type} {log : List (Event interface)} {name : String}

/-! ## Signers -/

def signed (signer : ChainSigner) (e : Event Signer.interface) : Event interface :=
  ⟨.onSigner signer e.request, e.answer, e.asked, e.answered⟩

/-- The program of a signer is asked of the wallet request by request. -/
theorem ends_through {signer : ChainSigner} {p : Program Signer.interface α} {a : α} :
    Ends (through signer p) log a ↔ ∃ l, log = l.map (signed signer) ∧ Ends p l a := by
  constructor
  · intro h
    induction p generalizing log with
    | done b =>
      obtain ⟨rfl, rfl⟩ := Program.ends_done.1 h
      exact ⟨[], rfl, .done _⟩
    | ask r next ih =>
      obtain ⟨x, asked, answered, l, rfl, hl⟩ := Program.ends_ask.1 h
      obtain ⟨l, rfl, h₁⟩ := ih x hl
      exact ⟨⟨r, x, asked, answered⟩ :: l, rfl, .ask (r := r) x asked answered h₁⟩
  · rintro ⟨l, rfl, h⟩
    induction h with
    | done => exact .done _
    | @ask r next _ _ x asked answered _ ih =>
      change Ends (.ask (I := interface) (.onSigner signer r) fun x => through signer (next x)) _ _
      exact Program.ends_ask.2 ⟨x, asked, answered, _, rfl, ih⟩

/-! ## The chain of a request -/

/-- The chain that a request is about; a wait names none. -/
def subject : Request → Option Chain
  | .tokenBalance name | .nativeBalance name | .openSigner name => Chain.lookup name
  | .onSigner _ (.read contract _) | .onSigner _ (.write contract _ _) =>
    Chain.all.find? fun c => c.token == contract
  | .onSigner _ (.wait _) => none

/-- The event is about the chain of this name. -/
def about (name : String) (e : Event interface) : Bool :=
  (subject e.request).map Chain.name == some name

theorem about_of_subject {e : Event interface} {c : Chain} (h : subject e.request = some c) :
    about c.name e = true := by
  simp [about, h]

theorem find?_token (c : Chain) : (Chain.all.find? fun d => d.token == c.token) = some c := by
  cases c <;> decide

theorem apart_about {a b : String} (h : a ≠ b) : Program.Apart about a b := by
  intro e ha
  rw [about, beq_iff_eq] at ha
  rw [about, ha, beq_eq_false_iff_ne]
  exact fun heq => h (Option.some.inj heq)

/-! ## Chains that carry the token -/

theorem mem_tokenChains {w : Wallet} :
    name ∈ w.tokenChains ↔ name ∈ w.configured.map Text.lowerCase ∧ ∃ c : Chain, c.name = name := by
  rw [tokenChains, List.mem_filter, Chain.isSupported, Option.isSome_iff_exists]
  constructor
  · rintro ⟨hmem, c, hc⟩
    obtain ⟨s, -, rfl⟩ := List.mem_map.1 hmem
    exact ⟨hmem, c, (Chain.eq_name_of_lookup_lowerCase hc).symm⟩
  · rintro ⟨hmem, c, rfl⟩
    exact ⟨hmem, c, Chain.lookup_name c⟩

theorem nodup_tokenChains {w : Wallet} (h : (w.configured.map Text.lowerCase).Nodup) :
    w.tokenChains.Nodup := h.filter _

/-! ## The two balances of a chain -/

/-- How the balances of a chain are read: the answers, and the entry that they give. -/
inductive Read (leastNative : Amount) (name : String) :
    List (Event interface) → ChainBalance → Prop where
  | noToken (report : Report) (asked answered : Nat) :
      Read leastNative name [⟨.tokenBalance name, .error report, asked, answered⟩]
        (.unavailable name)
  | noNative (token : Amount) (report : Report) (t t' u u' : Nat) :
      Read leastNative name [⟨.tokenBalance name, .ok token, t, t'⟩,
        ⟨.nativeBalance name, .error report, u, u'⟩] (.unavailable name)
  | both (token native : Amount) (t t' u u' : Nat) :
      Read leastNative name [⟨.tokenBalance name, .ok token, t, t'⟩,
        ⟨.nativeBalance name, .ok native, u, u'⟩] (.of name token native leastNative)

theorem read_of_ends {leastNative : Amount} {b : ChainBalance}
    (h : Ends (readBalance leastNative name) log b) : Read leastNative name log b := by
  obtain ⟨x, t, t', l, rfl, h₁⟩ := Program.ends_ask.1 h
  rcases x with report | token
  · obtain ⟨rfl, rfl⟩ := Program.ends_done.1 h₁
    exact .noToken report t t'
  · obtain ⟨y, u, u', l, rfl, h₂⟩ := Program.ends_ask.1 h₁
    rcases y with report | native
    · obtain ⟨rfl, rfl⟩ := Program.ends_done.1 h₂
      exact .noNative token report t t' u u'
    · obtain ⟨rfl, rfl⟩ := Program.ends_done.1 h₂
      exact .both token native t t' u u'

variable {leastNative : Amount} {b : ChainBalance}

theorem Read.chain (h : Read leastNative name log b) : b.chain = name := by
  cases h <;> rfl

theorem Read.ends (h : Read leastNative name log b) :
    Ends (readBalance leastNative name) log b := by
  cases h with
  | noToken => exact .ask _ _ _ (.done _)
  | noNative | both => exact .ask _ _ _ (.ask _ _ _ (.done _))

theorem Read.eligible_iff (h : Read leastNative name log b) :
    b.eligible = true ↔ 0 < b.token ∧ leastNative ≤ b.native := by
  cases h with
  | noToken | noNative =>
    constructor
    · intro he
      cases he
    · rintro ⟨hlt, -⟩
      cases hlt
  | both token native =>
    have hpos : 0 < token ↔ token ≠ 0 := BitVec.pos_iff_ne_zero token
    change (token != 0 && decide (leastNative ≤ native)) = true ↔ 0 < token ∧ leastNative ≤ native
    rw [Bool.and_eq_true, bne_iff_ne, decide_eq_true_iff, hpos]

theorem Read.token_ne_zero (h : Read leastNative name log b) (he : b.eligible = true) :
    b.token ≠ 0 := (BitVec.pos_iff_ne_zero _).1 (h.eligible_iff.1 he).1

theorem Read.asks {e : Event interface} (h : Read leastNative name log b) (he : e ∈ log) :
    e.request = .tokenBalance name ∨ e.request = .nativeBalance name := by
  cases h with
  | noToken =>
    rw [List.mem_singleton.1 he]
    exact .inl rfl
  | noNative | both =>
    rcases List.mem_cons.1 he with rfl | he
    · exact .inl rfl
    · rw [List.mem_singleton.1 he]
      exact .inr rfl

theorem Read.about {e : Event interface} {c : Chain} (h : Read leastNative c.name log b)
    (he : e ∈ log) : about c.name e = true := by
  apply about_of_subject
  rcases h.asks he with hr | hr <;> rw [hr] <;> exact Chain.lookup_name c

theorem balances_alone {w : Wallet} {balances : List ChainBalance}
    {readings : List (Program Wallet.interface ChainBalance)} (h : AllEnd readings log balances)
    (hp : readings.Perm (w.tokenChains.map (readBalance leastNative)))
    (hn : w.tokenChains.Nodup) :
    (balances.map (·.chain)).Perm w.tokenChains ∧
      ∀ b ∈ balances, Ends (readBalance leastNative b.chain) (log.filter (about b.chain)) b := by
  have hk : List.Forall₂
      (fun name p => (∃ c : Chain, c.name = name) ∧ p = readBalance leastNative name) w.tokenChains
      (w.tokenChains.map (readBalance leastNative)) := by
    rw [List.forall₂_map_right_iff, List.forall₂_same]
    exact fun name hname => ⟨(mem_tokenChains.1 hname).2, rfl⟩
  have hown : ∀ name p l b, ((∃ c : Chain, c.name = name) ∧ p = readBalance leastNative name) →
      Ends p l b → ∀ e ∈ l, about name e = true := by
    rintro name p l b ⟨⟨c, rfl⟩, rfl⟩ hb e he
    exact (read_of_ends hb).about he
  obtain ⟨names, hperm, hall⟩ := h.apart_of_perm about hp hk hown (hn.imp apart_about)
  have halone := Program.map_eq_of_forall₂ (f := id) (g := (·.chain))
    (P := fun b => Ends (readBalance leastNative b.chain) (log.filter (about b.chain)) b)
    (hall.imp (by
      rintro name b ⟨p, ⟨-, rfl⟩, hb⟩
      obtain rfl := (read_of_ends hb).chain
      exact ⟨rfl, hb⟩))
  rw [List.map_id] at halone
  exact ⟨halone.1 ▸ hperm, halone.2⟩

end TokenBridge.Wallet
