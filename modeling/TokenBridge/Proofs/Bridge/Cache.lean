import TokenBridge.Bridge.Cache
import TokenBridge.Proofs.Chain
import TokenBridge.Proofs.Program

/-!
# What the cache keeps

`Got` lists the five ways to ask for a client: it is kept already, the wallet is
not configured for the chain, its signer cannot be had, the chain does not carry
the token, or a client is made. `Reached` is every cache that asking and clearing
lead to. In such a cache an entry is filed under the name of its client's chain,
and its signer was handed out for that name (`Reached.filed`).
-/

namespace TokenBridge.Bridge

open Program (Ends)

/-- The chain for which an event hands out a signer, and the signer. -/
def opened? : Event Wallet.interface → Option (String × Wallet.ChainSigner)
  | ⟨.openSigner name, .ok signer, _, _⟩ => some (name, signer)
  | _ => none

namespace Cache

variable {w : Wallet} {cache after : Cache} {name key : String} {kept : Kept}
  {past log : List (Event Wallet.interface)} {y : Except BridgeError Kept}

/-! ## Entries -/

theorem mem_of_find? (h : cache.find? key = some kept) : (key, kept) ∈ cache.clients := by
  obtain ⟨entry, hentry, rfl⟩ := Option.map_eq_some_iff.1 h
  have hkey : entry.1 = key :=
    beq_iff_eq.1 (List.find?_some (p := fun c : String × Kept => c.1 == key) hentry)
  rw [← hkey]
  exact List.mem_of_find?_eq_some hentry

theorem find?_keep (client : Client) (signer : Wallet.ChainSigner) (other : String) :
    (cache.keep key client signer).2.find? other =
      (cache.find? other).or
        (if key = other then some (cache.keep key client signer).1 else none) := by
  simp only [find?, keep, List.find?_append]
  cases cache.clients.find? fun c => c.1 == other with
  | some entry => rfl
  | none => by_cases h : key = other <;> simp [h]

/-! ## Asking for a client -/

/-- The ways to ask for the client of a chain: what is asked of the wallet, what is had, and the
cache afterwards. -/
inductive Got (w : Wallet) (cache : Cache) (key : String) :
    List (Event Wallet.interface) → Except BridgeError Kept → Cache → Prop where
  | kept {kept : Kept} : cache.find? key = some kept → Got w cache key [] (.ok kept) cache
  | unconfigured : cache.find? key = none → w.isConfigured key = false →
      Got w cache key [] (.error (.chainNotConfigured key)) cache
  | refused (report : Report) (asked answered : Nat) : cache.find? key = none →
      w.isConfigured key = true →
      Got w cache key [⟨.openSigner key, .error report, asked, answered⟩]
        (.error (.chainCall key "get signer" report)) cache
  | unsupported (signer : Wallet.ChainSigner) (asked answered : Nat) : cache.find? key = none →
      w.isConfigured key = true → Chain.lookup key = none →
      Got w cache key [⟨.openSigner key, .ok signer, asked, answered⟩]
        (.error (.unsupported key)) cache
  | made (signer : Wallet.ChainSigner) (chain : Chain) (asked answered : Nat) :
      cache.find? key = none → w.isConfigured key = true → Chain.lookup key = some chain →
      Got w cache key [⟨.openSigner key, .ok signer, asked, answered⟩]
        (.ok (cache.keep key ⟨chain, signer.address⟩ signer).1)
        (cache.keep key ⟨chain, signer.address⟩ signer).2

theorem got_of_ends (h : Ends (get w cache name) log (y, after)) :
    Got w cache (Text.lowerCase name) log y after := by
  unfold get at h
  cases hk : cache.find? (Text.lowerCase name) with
  | some kept =>
    simp only [hk, Program.ends_done] at h
    obtain ⟨rfl, h⟩ := h
    cases h
    exact .kept hk
  | none =>
    simp only [hk] at h
    cases hw : w.isConfigured (Text.lowerCase name) with
    | false =>
      simp only [hw, Bool.not_false, if_true, Program.ends_done] at h
      obtain ⟨rfl, h⟩ := h
      cases h
      exact .unconfigured hk hw
    | true =>
      simp only [hw, Bool.not_true, Bool.false_eq_true, if_false] at h
      obtain ⟨x, asked, answered, l, rfl, hl⟩ := Program.ends_ask.1 h
      rcases x with report | signer
      · obtain ⟨rfl, hl⟩ := Program.ends_done.1 hl
        cases hl
        exact .refused report asked answered hk hw
      · unfold Client.ofName at hl
        cases hc : Chain.lookup (Text.lowerCase name) with
        | none =>
          simp only [hc, Program.ends_done] at hl
          obtain ⟨rfl, hl⟩ := hl
          cases hl
          exact .unsupported signer asked answered hk hw hc
        | some chain =>
          simp only [hc, Program.ends_done] at hl
          obtain ⟨rfl, hl⟩ := hl
          cases hl
          exact .made signer chain asked answered hk hw hc

theorem Got.ends (h : Got w cache (Text.lowerCase name) log y after) :
    Ends (get w cache name) log (y, after) := by
  unfold get
  cases h with
  | kept hk =>
    simp only [hk]
    exact .done _
  | unconfigured hk hw =>
    simp only [hk, hw]
    exact .done _
  | refused report asked answered hk hw =>
    simp only [hk, hw]
    exact .ask _ _ _ (.done _)
  | unsupported signer asked answered hk hw hc =>
    simp only [hk, hw]
    refine .ask _ _ _ ?_
    simp only [Client.ofName, hc]
    exact .done _
  | made signer chain asked answered hk hw hc =>
    simp only [hk, hw]
    refine .ask _ _ _ ?_
    simp only [Client.ofName, hc]
    exact .done _

theorem Got.of_find? (h : Got w cache key log y after) (hk : cache.find? key = some kept) :
    log = [] ∧ y = .ok kept ∧ after = cache := by
  cases h with
  | kept h =>
    obtain rfl := Option.some.inj (h.symm.trans hk)
    exact ⟨rfl, rfl, rfl⟩
  | unconfigured h => cases h.symm.trans hk
  | refused _ _ _ h | unsupported _ _ _ h | made _ _ _ _ h => cases h.symm.trans hk

theorem Got.find?_self (h : Got w cache key log (.ok kept) after) :
    after.find? key = some kept := by
  cases h with
  | kept h => exact h
  | made _ _ _ _ h => simp [find?_keep, h]

theorem Got.find?_mono {other : String} (h : Got w cache key log y after)
    (hk : cache.find? other = some kept) : after.find? other = some kept := by
  cases h with
  | made => simp [find?_keep, hk]
  | _ => exact hk

theorem Got.find?_of_ne {other : String} (h : Got w cache key log y after) (hne : key ≠ other) :
    after.find? other = cache.find? other := by
  cases h with
  | made => simp [find?_keep, hne]
  | _ => rfl

theorem Got.asks {e : Event Wallet.interface} (h : Got w cache key log y after) (he : e ∈ log) :
    e.request = .openSigner key := by
  cases h with
  | kept | unconfigured => cases he
  | refused | unsupported | made => rw [List.mem_singleton.1 he]

/-! ## Reachable caches -/

/-- Caches that asking for clients and clearing lead to, with what was asked of the wallet on the
way. -/
inductive Reached (w : Wallet) : List (Event Wallet.interface) → Cache → Prop where
  | empty : Reached w [] .empty
  | get {past log : List (Event Wallet.interface)} {cache after : Cache} {name : String}
      {y : Except BridgeError Kept} : Reached w past cache →
      Ends (Cache.get w cache name) log (y, after) → Reached w (past ++ log) after
  | clear {past : List (Event Wallet.interface)} {cache : Cache} : Reached w past cache →
      Reached w past cache.clear
  | idle {past : List (Event Wallet.interface)} {cache : Cache}
      (log : List (Event Wallet.interface)) :
      Reached w past cache → Reached w (past ++ log) cache

/-- An entry belongs to the chain it is filed under. -/
structure Filed (past : List (Event Wallet.interface)) (key : String) (kept : Kept) : Prop where
  chain : key = kept.client.chain.name
  address : kept.client.address = kept.signer.address
  opened : ∃ e ∈ past, opened? e = some (key, kept.signer)

theorem Filed.append (log : List (Event Wallet.interface)) (h : Filed past key kept) :
    Filed (past ++ log) key kept where
  chain := h.chain
  address := h.address
  opened :=
    have ⟨e, he, ho⟩ := h.opened
    ⟨e, List.mem_append_left _ he, ho⟩

theorem filed_of_mem (h : Reached w past cache) :
    ∀ entry ∈ cache.clients, Filed past entry.1 entry.2 := by
  induction h with
  | empty =>
    intro entry he
    cases he
  | clear h ih =>
    intro entry he
    cases he
  | idle log h ih => exact fun entry he => (ih entry he).append log
  | get h hg ih =>
    intro entry he
    cases got_of_ends hg with
    | made signer chain asked answered _ _ hc =>
      rcases List.mem_append.1 he with he | he
      · exact (ih entry he).append _
      · rw [List.mem_singleton.1 he]
        exact ⟨Chain.eq_name_of_lookup_lowerCase hc, rfl, _,
          List.mem_append_right _ (List.mem_singleton.2 rfl), rfl⟩
    | _ => exact (ih entry he).append _

theorem Reached.got (h : Reached w past cache)
    (hg : Got w cache (Text.lowerCase name) log y after) : Reached w (past ++ log) after :=
  h.get hg.ends

theorem Reached.filed (h : Reached w past cache) (hk : cache.find? key = some kept) :
    Filed past key kept := filed_of_mem h _ (mem_of_find? hk)

end Cache

end TokenBridge.Bridge
