import TokenBridge.Proofs.Balance
import TokenBridge.Proofs.Program.Answered
import TokenBridge.Proofs.Wallet.Config
import TokenBridge.Rpc.Wallet

/-!
# The chains of a wallet over nodes

The accounts of a wallet are filed under the enabled names of its configuration.
These are in lower case, and no two are the same. So a chain is listed, answers
to a name and has balances, whichever way the wallet is asked, exactly if the
lower-case form of the name is an enabled one (`Serves`). Every accepted
configuration with a key that signs has such a wallet (`ofConfig_serves`).
-/

namespace TokenBridge.Rpc

open Crypto.Secp256k1 (PrivateKey)
open Program (Ends)

variable {parse : Url.Parser} {w : NodeWallet} {c : WalletConfig} {key : PrivateKey} {a : Account}
  {s : String} {cs : List ChainAccess}

theorem message_of_ends_wrap {α : Type} {message : String} {p : Work α} {e : Report}
    {log : List (Event interface)} (h : Ends (wrap message p).run log (.error e)) :
    e.message = message := by
  obtain ⟨y, _, _, -, -, hy⟩ := Program.ends_bind.1 h
  obtain ⟨-, hy⟩ := Program.ends_done.1 hy
  cases y with
  | ok => cases hy
  | error e' =>
    cases hy
    rfl

namespace NodeWallet

/-- The failure for a name under which no chain is filed. -/
def notConfigured (name : String) : Report := .of ("Chain " ++ name ++ " is not configured")

/-! ## Accounts -/

/-- The account of a key on a chain of the configuration, and the name that it is filed under. -/
structure Opens (parse : Url.Parser) (key : PrivateKey) (c : ChainAccess)
    (entry : String × Account) : Prop where
  name : entry.1 = c.name
  chain : entry.2.chain = Text.lowerCase c.name
  url : parse c.url = .ok entry.2.url
  key : entry.2.key = key

theorem exists_accountsOf (key : PrivateKey) (h : ∀ c ∈ cs, ∃ u, parse c.url = .ok u) :
    ∃ accounts, accountsOf parse key cs = .ok accounts ∧
      List.Forall₂ (Opens parse key) cs accounts := by
  induction cs with
  | nil => exact ⟨[], rfl, .nil⟩
  | cons c cs ih =>
    rw [List.forall_mem_cons] at h
    obtain ⟨⟨u, hu⟩, hcs⟩ := h
    obtain ⟨accounts, haccounts, hopens⟩ := ih hcs
    refine ⟨(c.name, { chain := Text.lowerCase c.name, url := u, key }) :: accounts, ?_, ?_⟩
    · rw [accountsOf, Account.ofKey, hu, haccounts]
      rfl
    · exact .cons ⟨rfl, rfl, hu, rfl⟩ hopens

theorem map_fst_of_opens {accounts : List (String × Account)}
    (h : List.Forall₂ (Opens parse key) cs accounts) : accounts.map (·.1) = cs.map (·.name) := by
  induction h with
  | nil => rfl
  | cons hopens _ ih => exact congrArg₂ List.cons hopens.name ih

/-- The names of a wallet are sorted and are those of some chains, with an account for each. -/
structure Files (parse : Url.Parser) (key : PrivateKey) (cs : List ChainAccess)
    (w : NodeWallet) : Prop where
  address : w.address = key.address
  sorted : (w.accounts.map (·.1)).Pairwise (· < ·)
  names : ∀ name, name ∈ w.accounts.map (·.1) ↔ name ∈ cs.map (·.name)
  opens : ∀ entry ∈ w.accounts, ∃ c ∈ cs, Opens parse key c entry

theorem exists_ofConfig (hkey : PrivateKey.read c.key.secret = .ok key)
    (hnames : (c.enabled.map (·.name)).Nodup)
    (hurl : ∀ a ∈ c.enabled, ∃ u, parse a.url = .ok u) :
    ∃ w, ofConfig parse c = .ok w ∧ Files parse key c.enabled w := by
  obtain ⟨accounts, haccounts, hopens⟩ := exists_accountsOf key hurl
  have hfst := map_fst_of_opens hopens
  have hperm : (accounts.mergeSort fun a b => Chain.nameLe a.1 b.1).Perm accounts :=
    List.mergeSort_perm ..
  refine ⟨⟨key.address, accounts.mergeSort fun a b => Chain.nameLe a.1 b.1⟩, ?_, rfl, ?_, ?_, ?_⟩
  · unfold ofConfig
    rw [hkey]
    simp only [haccounts]
    rfl
  · exact Chain.pairwise_lt_mergeSort Prod.fst (hfst ▸ hnames)
  · intro name
    rw [(hperm.map _).mem_iff, hfst]
  · intro entry hentry
    exact Program.exists_key_of_forall₂ hopens (hperm.mem_iff.1 hentry)

/-! ## Names -/

theorem isSome_find?_iff : (w.accounts.find? fun a => a.1 == Text.lowerCase s).isSome = true ↔
    Text.lowerCase s ∈ w.accounts.map (·.1) := by
  rw [List.find?_isSome, List.mem_map]
  simp only [beq_iff_eq]

theorem mem_of_account (h : w.account s = .ok a) : (Text.lowerCase s, a) ∈ w.accounts := by
  unfold account at h
  cases hfind : w.accounts.find? fun a => a.1 == Text.lowerCase s with
  | none =>
    rw [hfind] at h
    cases h
  | some entry =>
    rw [hfind] at h
    cases h
    have hname := List.find?_some hfind
    rw [← beq_iff_eq.1 hname]
    exact List.mem_of_find?_eq_some hfind

theorem exists_account (h : Text.lowerCase s ∈ w.accounts.map (·.1)) :
    ∃ a, w.account s = .ok a := by
  obtain ⟨entry, hfind⟩ := Option.isSome_iff_exists.1 (isSome_find?_iff.2 h)
  refine ⟨entry.2, ?_⟩
  rw [account, hfind]
  rfl

theorem account_eq_error (h : Text.lowerCase s ∉ w.accounts.map (·.1)) :
    w.account s = .error (notConfigured s) := by
  have hnone : (w.accounts.find? fun a => a.1 == Text.lowerCase s) = none := by
    rw [← Option.not_isSome_iff_eq_none, isSome_find?_iff]
    exact h
  rw [account, hnone]
  rfl

theorem exists_account_iff : (∃ a, w.account s = .ok a) ↔
    Text.lowerCase s ∈ w.accounts.map (·.1) := by
  refine ⟨fun ⟨a, ha⟩ => ?_, exists_account⟩
  exact List.mem_map_of_mem (f := Prod.fst) (mem_of_account ha)

/-! ## Balances -/

theorem nativeBalance_eq_error (h : Text.lowerCase s ∉ w.accounts.map (·.1)) :
    (w.nativeBalance s).run = .done (.error (notConfigured s)) := by
  rw [nativeBalance, account_eq_error h]
  rfl

theorem tokenBalance_eq_error (h : Text.lowerCase s ∉ w.accounts.map (·.1)) :
    ∃ e, (w.tokenBalance s).run = .done (.error e) := by
  unfold tokenBalance
  cases Chain.lookup s with
  | none => exact ⟨_, rfl⟩
  | some chain =>
    refine ⟨notConfigured s, ?_⟩
    rw [account_eq_error h]
    rfl

theorem message_of_ends_nativeBalance {e : Report} {log : List (Event interface)}
    (hs : Text.lowerCase s ∈ w.accounts.map (·.1))
    (h : Ends (w.nativeBalance s).run log (.error e)) : e.message ≠ (notConfigured s).message := by
  obtain ⟨a, ha⟩ := exists_account hs
  rw [nativeBalance, ha] at h
  have hmessage : e.message = "Failed to get native balance on " ++ a.chain :=
    message_of_ends_wrap h
  rw [hmessage]
  intro heq
  have hfirst := congrArg (fun t => t.toList.head?) heq
  simp [notConfigured, Report.of] at hfirst

/-! ## The whole -/

/-- The wallet lists no such chain, and refuses every name of it without asking. -/
structure Unreachable (w : NodeWallet) (name : String) : Prop where
  configured : name ∉ w.toWallet.configured
  isConfigured : ∀ s, Text.lowerCase s = name → w.toWallet.isConfigured s = false
  account : ∀ s, Text.lowerCase s = name → w.account s = .error (notConfigured s)
  nativeBalance : ∀ s, Text.lowerCase s = name →
    (w.nativeBalance s).run = .done (.error (notConfigured s))
  tokenBalance : ∀ s, Text.lowerCase s = name → ∃ e, (w.tokenBalance s).run = .done (.error e)

/-- Whichever way it is asked, the wallet has the enabled chains of a configuration. -/
structure Serves (parse : Url.Parser) (c : WalletConfig) (key : PrivateKey)
    (w : NodeWallet) : Prop where
  address : w.toWallet.address = key.address
  sorted : w.toWallet.configured.Pairwise (· < ·)
  configured : ∀ name, name ∈ w.toWallet.configured ↔ name ∈ c.enabledNames
  isConfigured : ∀ s, w.toWallet.isConfigured s = true ↔ Text.lowerCase s ∈ c.enabledNames
  account : ∀ s, (∃ a, w.account s = .ok a) ↔ Text.lowerCase s ∈ c.enabledNames
  /-- An account that is had signs for the wallet, at the endpoint of the chain of that name. -/
  handed : ∀ s a, w.account s = .ok a → a.address = w.toWallet.address ∧
    a.chain = Text.lowerCase s ∧
    ∃ entry ∈ c.enabled, entry.name = Text.lowerCase s ∧ parse entry.url = .ok a.url
  /-- In no run does a native balance fail for want of an account. -/
  nativeBalance : ∀ s, Text.lowerCase s ∈ c.enabledNames → ∀ {σ : Type} (h : Handler interface σ)
    (now : Nat) (state : σ) (e : Report),
    (Program.run h (w.nativeBalance s).run now state).result = .error e →
      e.message ≠ (notConfigured s).message
  /-- Under any other name it does in every run, and nothing is asked. -/
  nativeBalance_unconfigured : ∀ s, Text.lowerCase s ∉ c.enabledNames → ∀ {σ : Type}
    (h : Handler interface σ) (now : Nat) (state : σ),
    (Program.run h (w.nativeBalance s).run now state).result = .error (notConfigured s) ∧
      (Program.run h (w.nativeBalance s).run now state).events = []
  disabled : ∀ entry ∈ c.chains, entry.enabled = false → w.Unreachable entry.name
  /-- Whoever answers, there is one entry for each enabled chain of the registry. -/
  balances : ∀ {σ : Type} (h : Handler Wallet.interface σ) (order : Arrangement)
    (leastNative : Amount) (now : Nat) (state : σ),
    let names := (Flow.run h order (w.toWallet.readBalances leastNative) now
      state).result.balances.map (·.chain)
    names.Pairwise (· < ·) ∧
      ∀ name, name ∈ names ↔ name ∈ c.enabledNames ∧ ∃ chain : Chain, chain.name = name

theorem unreachable_of_not_mem {name : String} (h : name ∉ w.accounts.map (·.1)) :
    w.Unreachable name where
  configured := h
  isConfigured := by
    rintro s rfl
    exact Bool.eq_false_iff.2 fun hs => h (isSome_find?_iff.1 hs)
  account := by
    rintro s rfl
    exact account_eq_error h
  nativeBalance := by
    rintro s rfl
    exact nativeBalance_eq_error h
  tokenBalance := by
    rintro s rfl
    exact tokenBalance_eq_error h

theorem Files.handed (h : Files parse key cs w) (ha : w.account s = .ok a) :
    a.address = w.address ∧ a.chain = Text.lowerCase s ∧
      ∃ entry ∈ cs, entry.name = Text.lowerCase s ∧ parse entry.url = .ok a.url := by
  obtain ⟨entry, hmem, hopens⟩ := h.opens _ (mem_of_account ha)
  have hname : entry.name = Text.lowerCase s := hopens.name.symm
  refine ⟨?_, ?_, entry, hmem, hname, hopens.url⟩
  · rw [h.address, ← hopens.key]
    rfl
  · rw [← hname]
    exact hopens.chain.trans (by rw [hname, Text.lowerCase_lowerCase])

theorem Files.map_lowerCase (h : Files parse key cs w)
    (hlow : ∀ c ∈ cs, Text.lowerCase c.name = c.name) :
    w.toWallet.configured.map Text.lowerCase = w.toWallet.configured := by
  refine (List.map_congr_left fun name hname => ?_).trans (List.map_id _)
  obtain ⟨c, hc, rfl⟩ := List.mem_map.1 ((h.names name).1 hname)
  exact hlow c hc

theorem Files.serves (h : Files parse key c.enabled w)
    (hlow : ∀ c' ∈ c.enabled, Text.lowerCase c'.name = c'.name)
    (hnames : (c.chains.map (·.name)).Nodup) : Serves parse c key w where
  address := h.address
  sorted := h.sorted
  configured := h.names
  isConfigured s := isSome_find?_iff.trans (h.names _)
  account s := exists_account_iff.trans (h.names _)
  handed s a ha := h.handed ha
  nativeBalance s hs σ handler now state e he := by
    have hends := Program.ends_run handler (w.nativeBalance s).run now state
    rw [he] at hends
    exact message_of_ends_nativeBalance ((h.names _).2 hs) hends
  nativeBalance_unconfigured s hs σ handler now state := by
    rw [nativeBalance_eq_error (mt (h.names _).1 hs)]
    exact ⟨rfl, rfl⟩
  disabled entry hentry hoff := by
    refine unreachable_of_not_mem fun hmem => ?_
    obtain ⟨other, hother, hname⟩ := List.mem_map.1 ((h.names _).1 hmem)
    obtain ⟨hother, hon⟩ := List.mem_filter.1 hother
    -- Two chains of one name are one chain, which is not both enabled and disabled.
    obtain rfl := List.inj_on_of_nodup_map hnames hother hentry hname
    rw [hoff] at hon
    cases hon
  balances handler order leastNative now state := by
    have hmap := h.map_lowerCase hlow
    have hnodup : (w.toWallet.configured.map Text.lowerCase).Nodup := by
      rw [hmap]
      refine h.sorted.imp ?_
      rintro _ _ hlt rfl
      exact String.lt_irrefl _ hlt
    have hreports := Wallet.reports_of_ends hnodup
      (Flow.ends_run handler order (w.toWallet.readBalances leastNative) now state)
    refine ⟨hreports.sorted, fun name => ?_⟩
    rw [hreports.chains, hmap]
    exact and_congr_left' (h.names name)

/-- An accepted configuration whose key signs has a wallet, which serves its enabled chains. -/
theorem ofConfig_serves {chains : List ChainAccess} {text : String}
    (hc : WalletConfig.make parse chains text = .ok c) (hkey : PrivateKey.read text = .ok key) :
    ∃ w, ofConfig parse c = .ok w ∧ Serves parse c key w := by
  obtain ⟨heq, hvalid⟩ := WalletConfig.make_eq_ok_iff.1 hc
  have hsecret : PrivateKey.read c.key.secret = .ok key := by
    rw [heq]
    exact hkey
  have hsub : c.enabled.Sublist c.chains := List.filter_sublist
  obtain ⟨w, hw, hfiles⟩ := exists_ofConfig hsecret ((hsub.map _).nodup hvalid.names)
    fun a ha => ChainAccess.exists_read_url (hvalid.access a (hsub.mem ha))
  refine ⟨w, hw, hfiles.serves (fun a ha => ?_) hvalid.names⟩
  exact WalletConfig.lowerCase_name_of_make hc (hsub.mem ha)

/-- Of two chains one is enabled, and its name is given with a blank and a capital. -/
theorem ofConfig_serves_arbitrum :
    let chains : List ChainAccess := [⟨" Arbitrum", 42161, "https://arb1.example/rpc", true⟩,
      ⟨"base", 8453, "http://localhost:8545", false⟩]
    let text := "0x" ++ String.ofList (List.replicate 63 '0' ++ ['1'])
    ∃ c key w, WalletConfig.make Url.parser chains text = .ok c ∧ PrivateKey.read text = .ok key ∧
      ofConfig Url.parser c = .ok w ∧ (∀ name, name ∈ w.toWallet.configured ↔ name = "arbitrum") ∧
      w.toWallet.isConfigured "ARBITRUM" = true ∧ (∃ a, w.account "ARBITRUM" = .ok a) ∧
      w.account "base" = .error (notConfigured "base") := by
  intro chains text
  have haccepted : (WalletConfig.make Url.parser chains text).toBool = true := by decide +kernel
  have hsigns : (PrivateKey.read text).toBool = true := by decide +kernel
  obtain ⟨c, hc⟩ := exists_ok_of_toBool haccepted
  obtain ⟨key, hkey⟩ := exists_ok_of_toBool hsigns
  obtain ⟨w, hw, hserves⟩ := ofConfig_serves hc hkey
  obtain ⟨rfl, -⟩ := WalletConfig.make_eq_ok_iff.1 hc
  have henabled : WalletConfig.enabledNames ⟨chains.map ChainAccess.normal, ⟨text⟩⟩ =
      ["arbitrum"] := by decide +kernel
  have hmem : Text.lowerCase "ARBITRUM" ∈
      WalletConfig.enabledNames ⟨chains.map ChainAccess.normal, ⟨text⟩⟩ := by decide +kernel
  refine ⟨_, key, w, hc, hkey, hw, fun name => ?_, (hserves.isConfigured _).2 hmem,
    (hserves.account _).2 hmem, ?_⟩
  · rw [hserves.configured, henabled, List.mem_singleton]
  · exact (hserves.disabled ⟨"base", 8453, "http://localhost:8545", false⟩ (by decide +kernel)
      rfl).account "base" (by decide +kernel)

end NodeWallet

end TokenBridge.Rpc
