import Mathlib.Data.List.Nodup
import TokenBridge.Proofs.Text.Spelling
import TokenBridge.Wallet.Config

/-!
# Accepted configurations

A configuration is accepted exactly if it is `Valid`: each of its chains is, no
two have one name or one native id, and the key has the form of a key
(`make_eq_ok_iff`). Names are filed in lower case. Of the key nothing is read but
its form, so nothing else of it can be told from an error, from the text of the
configuration or from what it answers (`key_untold`).
-/

namespace TokenBridge

/-! ## Checks in a row -/

section Checks

variable {ε α : Type} {x : Except ε α} {e : ε} {b : α}

@[simp] theorem ite_throw_bind_eq_ok {p : Prop} [Decidable p] {f : Unit → Except ε α} :
    (if p then throw e >>= f else x) = .ok b ↔ ¬ p ∧ x = .ok b := by
  by_cases hp : p
  · rw [if_pos hp]
    exact ⟨nofun, fun h => absurd hp h.1⟩
  · rw [if_neg hp, and_iff_right hp]

@[simp] theorem ite_throw_eq_ok {p : Prop} [Decidable p] {u : Unit} :
    (if p then throw e else pure () : Except ε Unit) = .ok u ↔ ¬ p := by
  by_cases hp : p
  · rw [if_pos hp]
    exact ⟨nofun, fun h => absurd hp h⟩
  · rw [if_neg hp]
    exact ⟨fun _ => hp, fun _ => rfl⟩

@[simp] theorem check_bind_eq_ok {y : Except ε Unit} {f : Unit → Except ε α} :
    (y >>= f) = .ok b ↔ y = .ok () ∧ f () = .ok b := by
  cases y with
  | error e => exact ⟨nofun, fun h => nomatch h.1⟩
  | ok u => exact ⟨fun h => ⟨rfl, h⟩, fun h => h.2⟩

end Checks

variable {parse : Url.Parser} {a : ChainAccess} {chains : List ChainAccess} {c : WalletConfig}
  {key key' : String}

namespace ChainAccess

theorem lowerCase_name_normal (a : ChainAccess) : Text.lowerCase a.normal.name = a.normal.name :=
  Text.lowerCase_lowerCase _

theorem exists_read_url (h : a.validate parse = .ok ()) : ∃ u, parse a.url = .ok u := by
  have hendpoint : Url.checkEndpoint parse a.url (a.name ++ "_RPC_URL") = .ok () := by
    simp only [validate, ite_throw_bind_eq_ok, check_bind_eq_ok] at h
    exact h.2.2.1
  unfold Url.checkEndpoint at hendpoint
  split at hendpoint
  · cases hendpoint
  next u hu => exact ⟨u, hu⟩

end ChainAccess

namespace WalletConfig

/-! ## Acceptance -/

/-- A configuration that is accepted. -/
structure Valid (parse : Url.Parser) (c : WalletConfig) : Prop where
  nonempty : c.chains ≠ []
  access : ∀ a ∈ c.chains, a.validate parse = .ok ()
  names : (c.chains.map (·.name)).Nodup
  ids : (c.chains.map (·.nativeId)).Nodup
  key : isKey c.key.secret = true

theorem checkChains_cons_eq_ok {names : List String} {ids : List Nat} :
    checkChains parse names ids (a :: chains) = .ok () ↔
      a.validate parse = .ok () ∧ a.name ∉ names ∧ a.nativeId ∉ ids ∧
        checkChains parse (a.name :: names) (a.nativeId :: ids) chains = .ok () := by
  simp only [checkChains, check_bind_eq_ok, ite_throw_bind_eq_ok, List.contains_iff_mem]

theorem checkChains_eq_ok {names : List String} {ids : List Nat} :
    checkChains parse names ids chains = .ok () ↔
      (∀ a ∈ chains, a.validate parse = .ok ()) ∧
        ((chains.map (·.name)).Nodup ∧ ∀ a ∈ chains, a.name ∉ names) ∧
        (chains.map (·.nativeId)).Nodup ∧ ∀ a ∈ chains, a.nativeId ∉ ids := by
  induction chains generalizing names ids with
  | nil => simp [checkChains]
  | cons a chains ih =>
    rw [checkChains_cons_eq_ok, ih, List.forall_mem_cons, List.forall_mem_cons,
      List.forall_mem_cons]
    simp only [List.map_cons, List.nodup_cons, List.mem_cons, not_or, List.mem_map, not_exists,
      not_and]
    constructor
    · rintro ⟨ha, hname, hid, hall, ⟨hnames, hapart⟩, hids, hapart'⟩
      exact ⟨⟨ha, hall⟩,
        ⟨⟨fun b hb => (hapart b hb).1, hnames⟩, hname, fun b hb => (hapart b hb).2⟩,
        ⟨fun b hb => (hapart' b hb).1, hids⟩, hid, fun b hb => (hapart' b hb).2⟩
    · rintro ⟨⟨ha, hall⟩, ⟨⟨hfresh, hnames⟩, hname, hothers⟩, ⟨hfresh', hids⟩, hid, hothers'⟩
      exact ⟨ha, hname, hid, hall, ⟨hnames, fun b hb => ⟨hfresh b hb, hothers b hb⟩⟩, hids,
        fun b hb => ⟨hfresh' b hb, hothers' b hb⟩⟩

theorem validate_eq_ok : c.validate parse = .ok () ↔ c.Valid parse := by
  simp only [validate, ite_throw_bind_eq_ok, check_bind_eq_ok, ite_throw_eq_ok, checkChains_eq_ok,
    List.isEmpty_iff, Bool.not_eq_true', Bool.not_eq_false]
  constructor
  · rintro ⟨hne, ⟨haccess, ⟨hnames, -⟩, hids, -⟩, hkey⟩
    exact ⟨hne, haccess, hnames, hids, hkey⟩
  · rintro ⟨hne, haccess, hnames, hids, hkey⟩
    exact ⟨hne, ⟨haccess, ⟨hnames, fun _ _ => List.not_mem_nil⟩, hids,
      fun _ _ => List.not_mem_nil⟩, hkey⟩

theorem make_eq_ok_iff : make parse chains key = .ok c ↔
    c = ⟨chains.map ChainAccess.normal, ⟨key⟩⟩ ∧ c.Valid parse := by
  simp only [make, check_bind_eq_ok, validate_eq_ok]
  constructor
  · rintro ⟨hv, ⟨⟩⟩
    exact ⟨rfl, hv⟩
  · rintro ⟨rfl, hv⟩
    exact ⟨hv, rfl⟩

theorem lowerCase_name_of_make (h : make parse chains key = .ok c) (ha : a ∈ c.chains) :
    Text.lowerCase a.name = a.name := by
  obtain ⟨rfl, -⟩ := make_eq_ok_iff.1 h
  obtain ⟨b, -, rfl⟩ := List.mem_map.1 ha
  exact b.lowerCase_name_normal

/-! ## What is told of the key -/

/-- Two configurations of which everything but the key is the same. -/
structure SameBut (c c' : WalletConfig) : Prop where
  text : c.text = c'.text
  chains : c.chains = c'.chains
  byName : ∀ name, c.byName? name = c'.byName? name
  byId : ∀ id, c.byId? id = c'.byId? id
  enabled : c.enabled = c'.enabled
  enabledNames : c.enabledNames = c'.enabledNames
  tokenNames : c.tokenNames = c'.tokenNames

theorem sameBut_key (chains : List ChainAccess) (key key' : Redacted String) :
    SameBut ⟨chains, key⟩ ⟨chains, key'⟩ where
  text := rfl
  chains := rfl
  byName _ := rfl
  byId _ := rfl
  enabled := rfl
  enabledNames := rfl
  tokenNames := rfl

theorem validate_congr (h : isKey key = isKey key') (chains : List ChainAccess) :
    validate parse ⟨chains, ⟨key⟩⟩ = validate parse ⟨chains, ⟨key'⟩⟩ := by
  unfold validate
  rw [h]

/-- Two keys of which both or neither have the form of a key give the same error, or configurations
that differ in the key alone. -/
theorem key_untold (parse : Url.Parser) (chains : List ChainAccess)
    (h : isKey key = isKey key') :
    (∃ e, make parse chains key = .error e ∧ make parse chains key' = .error e) ∨
      ∃ c c', make parse chains key = .ok c ∧ make parse chains key' = .ok c' ∧ c.SameBut c' ∧
        c.key.secret = key ∧ c'.key.secret = key' := by
  unfold make
  simp only [validate_congr h]
  cases validate parse ⟨chains.map ChainAccess.normal, ⟨key'⟩⟩ with
  | error e => exact .inl ⟨e, rfl, rfl⟩
  | ok _ => exact .inr ⟨_, _, rfl, rfl, sameBut_key _ _ _, rfl, rfl⟩

/-- A key of ones and a key of twos, with chains that are accepted. -/
theorem key_untold_of_two_keys :
    let chains : List ChainAccess := [⟨" Arbitrum ", 42161, "https://arb1.example/rpc", true⟩,
      ⟨"base", 8453, "http://localhost:8545", false⟩]
    let key (digit : Char) := "0x" ++ String.ofList (List.replicate 64 digit)
    isKey (key '1') = isKey (key '2') ∧ key '1' ≠ key '2' ∧
      ∃ c c', make Url.parser chains (key '1') = .ok c ∧ make Url.parser chains (key '2') = .ok c' ∧
        c.text = c'.text ∧ c.enabledNames = c'.enabledNames ∧ c.key.secret ≠ c'.key.secret := by
  intro chains key
  have hform : isKey (key '1') = isKey (key '2') := by decide +kernel
  have hne : key '1' ≠ key '2' := by decide +kernel
  have haccepted : (make Url.parser chains (key '1')).toBool = true := by decide +kernel
  rcases key_untold Url.parser chains hform with
    ⟨e, herror, -⟩ | ⟨c, c', hc, hc', hsame, hkey, hkey'⟩
  · rw [herror] at haccepted
    cases haccepted
  · refine ⟨hform, hne, c, c', hc, hc', hsame.text, hsame.enabledNames, ?_⟩
    rwa [hkey, hkey']

end WalletConfig

end TokenBridge
