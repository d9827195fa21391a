import TokenBridge.Proofs.Number.Numeral
import TokenBridge.Proofs.Text.Blank
import TokenBridge.Proofs.Wallet.Acceptance

/-!
# Configurations from the environment

What the variables of one place have to say for a chain to be read from them
(`Block`), and what is wrong where none is (`Flaw`): a place has exactly one of
the two, and it is what the reader makes of the place (`outcome_readChain`).
Along the places the first flaw ends the reading, so a run of places gives one
block each, or the flaw of the first place that has one
(`readChains_eq_ok_iff`, `readChains_eq_error_iff`).

All this is only reached if there is room for as many chains as the environment
announces (`read_settled`). A number that is too great ends the program, though
the first place has a flaw that would have been reported (`CountIs.read_without_room`).
-/

namespace TokenBridge

open Number (IsNumeral)

variable {parse : Url.Parser} {env env' : Environment} {a : ChainAccess} {chains : List ChainAccess}
  {c : WalletConfig} {e : Report} {i j n place start count memory : Nat} {s t key : String}

theorem outcome_iff {ε α : Type} {x : Except ε α} {P : α → Prop} {Q : ε → Prop}
    (hok : ∀ a, P a → x = .ok a) (herror : ∀ e, Q e → x = .error e)
    (h : (∃ a, P a) ∨ ∃ e, Q e) : (∀ a, x = .ok a ↔ P a) ∧ ∀ e, x = .error e ↔ Q e := by
  rcases h with ⟨a, ha⟩ | ⟨e, he⟩
  · obtain rfl := hok a ha
    refine ⟨fun b => ⟨fun hb => Except.ok.inj hb ▸ ha, hok b⟩, fun e => ⟨fun he => ?_, herror e⟩⟩
    cases he
  · obtain rfl := herror e he
    refine ⟨fun a => ⟨fun ha => ?_, hok a⟩, fun f => ⟨fun hf => Except.error.inj hf ▸ he, herror f⟩⟩
    cases ha

namespace ChainAccess

theorem normalName_normalName (name : String) : normalName (normalName name) = normalName name := by
  rw [normalName, normalName, Text.trim_lowerCase_trim, Text.lowerCase_lowerCase]

end ChainAccess

namespace WalletConfig

open ChainAccess (normalName)

/-! ## One place -/

/-- What the variables of a place say of a chain. -/
structure Block (env : Environment) (place : Nat) (a : ChainAccess) : Prop where
  name : ∃ s, env.get? (variableName place "NAME") = some s ∧ a.name = normalName s
  url : env.get? (variableName place "RPC_URL") = some a.url
  nativeId :
    (∃ s, env.get? (variableName place "CHAIN_ID") = some s ∧ IsNumeral (Text.trim s) a.nativeId ∧
      a.nativeId < 2 ^ 64) ∨
    (env.get? (variableName place "CHAIN_ID") = none ∧
      ∃ chain : Chain, a.name = chain.name ∧ a.nativeId = chain.nativeId)
  enabled : a.enabled = true ↔ env.get? (variableName place "ENABLED") ≠ some "false"

/-- What is wrong with the variables of a place. -/
inductive Flaw (env : Environment) (place : Nat) : Report → Prop where
  | name : env.get? (variableName place "NAME") = none →
      Flaw env place (.of ("Missing " ++ variableName place "NAME"))
  | url {name : String} : env.get? (variableName place "NAME") = some name →
      env.get? (variableName place "RPC_URL") = none →
      Flaw env place (.of ("Missing " ++ variableName place "RPC_URL"))
  | badId {name url s : String} : env.get? (variableName place "NAME") = some name →
      env.get? (variableName place "RPC_URL") = some url →
      env.get? (variableName place "CHAIN_ID") = some s →
      (∀ n < 2 ^ 64, ¬ IsNumeral (Text.trim s) n) →
      Flaw env place (.of ("Invalid " ++ variableName place "CHAIN_ID" ++ ": must be a u64"))
  | noId {name url : String} : env.get? (variableName place "NAME") = some name →
      env.get? (variableName place "RPC_URL") = some url →
      env.get? (variableName place "CHAIN_ID") = none →
      (∀ chain : Chain, normalName name ≠ chain.name) →
      Flaw env place (.of ("Missing " ++ variableName place "CHAIN_ID" ++
        " for non-registry chain " ++ normalName name))

theorem required_of_some {explanation : String} (h : env.get? s = some t) :
    required env s explanation = .ok t := by
  rw [required, h]

theorem required_of_none {explanation : String} (h : env.get? s = none) :
    required env s explanation = .error (.of ("Missing " ++ s ++ explanation)) := by
  rw [required, h]

theorem lookup_normalName_eq_none {name : String} :
    Chain.lookup (normalName name) = none ↔ ∀ chain : Chain, normalName name ≠ chain.name := by
  rw [Option.eq_none_iff_forall_ne_some]
  exact forall_congr' fun _ => not_congr ChainAccess.lookup_normalName_eq_some

theorem readChain_of_nativeId {name url : String}
    (hname : env.get? (variableName place "NAME") = some name)
    (hurl : env.get? (variableName place "RPC_URL") = some url) :
    readChain env place = (readNativeId env place (normalName name)).map fun id =>
      ⟨normalName name, id, url, env.get? (variableName place "ENABLED") != some "false"⟩ := by
  rw [readChain, required_of_some hname, required_of_some hurl]
  simp only [bind, Except.bind]
  cases readNativeId env place (normalName name) with
  | error e => rfl
  | ok id => rfl

theorem Block.readChain_eq (h : Block env place a) : readChain env place = .ok a := by
  obtain ⟨name, nativeId, url, enabled⟩ := a
  obtain ⟨⟨s, hname, rfl⟩, hurl, hid, henabled⟩ := h
  have hread : readNativeId env place (normalName s) = .ok nativeId := by
    rcases hid with ⟨t, hset, hid⟩ | ⟨hunset, chain, hchain, rfl⟩
    · rw [readNativeId, hset, Number.readUnsigned64]
      simp only [Number.readUnsigned_eq_some_iff.2 hid]
    · rw [readNativeId, hunset]
      simp only [ChainAccess.lookup_normalName_eq_some.2 hchain]
  have hflag : (env.get? (variableName place "ENABLED") != some "false") = enabled := by
    rw [Bool.eq_iff_iff, bne_iff_ne, henabled]
  rw [readChain_of_nativeId hname hurl, hread, hflag]
  rfl

theorem Flaw.readChain_eq (h : Flaw env place e) : readChain env place = .error e := by
  cases h with
  | name hname =>
    rw [readChain, required_of_none hname, String.append_empty]
    rfl
  | url hname hurl =>
    rw [readChain, required_of_some hname, required_of_none hurl, String.append_empty]
    rfl
  | badId hname hurl hid hbad =>
    rw [readChain_of_nativeId hname hurl, readNativeId, hid, Number.readUnsigned64]
    simp only [Number.readUnsigned_eq_none_iff.2 hbad]
    rfl
  | noId hname hurl hid hnone =>
    rw [readChain_of_nativeId hname hurl, readNativeId, hid]
    simp only [lookup_normalName_eq_none.2 hnone]
    rfl

theorem block_or_flaw (env : Environment) (place : Nat) :
    (∃ a, Block env place a) ∨ ∃ e, Flaw env place e := by
  cases hname : env.get? (variableName place "NAME") with
  | none => exact .inr ⟨_, .name hname⟩
  | some name =>
    cases hurl : env.get? (variableName place "RPC_URL") with
    | none => exact .inr ⟨_, .url hname hurl⟩
    | some url =>
      have henabled := bne_iff_ne (a := env.get? (variableName place "ENABLED")) (b := some "false")
      cases hid : env.get? (variableName place "CHAIN_ID") with
      | some s =>
        cases hread : Number.readUnsigned (2 ^ 64) (Text.trim s) with
        | none => exact .inr ⟨_, .badId hname hurl hid (Number.readUnsigned_eq_none_iff.1 hread)⟩
        | some n =>
          have hn := Number.readUnsigned_eq_some_iff.1 hread
          exact .inl ⟨⟨normalName name, n, url, _⟩, ⟨name, hname, rfl⟩, hurl, .inl ⟨s, hid, hn⟩,
            henabled⟩
      | none =>
        cases hlookup : Chain.lookup (normalName name) with
        | none => exact .inr ⟨_, .noId hname hurl hid (lookup_normalName_eq_none.1 hlookup)⟩
        | some chain =>
          have hchain := ChainAccess.lookup_normalName_eq_some.1 hlookup
          exact .inl ⟨⟨normalName name, chain.nativeId, url, _⟩, ⟨name, hname, rfl⟩, hurl,
            .inr ⟨hid, chain, hchain, rfl⟩, henabled⟩

theorem outcome_readChain (env : Environment) (place : Nat) :
    (∀ a, readChain env place = .ok a ↔ Block env place a) ∧
      ∀ e, readChain env place = .error e ↔ Flaw env place e :=
  outcome_iff (fun _ => Block.readChain_eq) (fun _ => Flaw.readChain_eq) (block_or_flaw env place)

/-! ## Places in a row -/

/-- The chains of the places from one to `n`, in their order. -/
def Places (env : Environment) (n : Nat) (chains : List ChainAccess) : Prop :=
  List.Forall₂ (Block env) (List.range' 1 n) chains

/-- Something is wrong with a place from one to `n`, and with none before it. -/
def FirstFlaw (env : Environment) (n : Nat) (e : Report) : Prop :=
  ∃ i, 1 ≤ i ∧ i ≤ n ∧ Flaw env i e ∧ ∀ j, 1 ≤ j → j < i → ∃ a, Block env j a

theorem readChains_succ : readChains env (count + 1) start =
    (readChain env start).bind fun a => (readChains env count (start + 1)).map (a :: ·) := by
  rw [readChains]
  refine bind_congr fun a => ?_
  cases readChains env count (start + 1) with
  | error e => rfl
  | ok chains => rfl

theorem readChains_eq_ok_iff : readChains env count start = .ok chains ↔
    List.Forall₂ (Block env) (List.range' start count) chains := by
  induction count generalizing start chains with
  | zero =>
    rw [readChains, List.range'_zero, List.forall₂_nil_left_iff, Except.ok.injEq, eq_comm]
  | succ count ih =>
    rw [readChains_succ, List.range'_succ, List.forall₂_cons_left_iff]
    simp only [← (outcome_readChain env start).1, ← ih]
    cases readChain env start with
    | error e => simp [Except.bind]
    | ok a =>
      cases readChains env count (start + 1) with
      | error e => simp [Except.bind, Except.map]
      | ok rest => simp [Except.bind, Except.map, eq_comm]

theorem readChains_eq_error_iff : readChains env count start = .error e ↔
    ∃ i, start ≤ i ∧ i < start + count ∧ Flaw env i e ∧
      ∀ j, start ≤ j → j < i → ∃ a, Block env j a := by
  induction count generalizing start with
  | zero => exact ⟨nofun, fun ⟨i, hi, hi', _⟩ => absurd hi' (Nat.not_lt.2 hi)⟩
  | succ count ih =>
    rw [readChains_succ]
    rcases block_or_flaw env start with ⟨a, ha⟩ | ⟨e', he'⟩
    · have hrest : ((readChain env start).bind fun a =>
          (readChains env count (start + 1)).map (a :: ·)) = .error e ↔
          readChains env count (start + 1) = .error e := by
        rw [ha.readChain_eq, Except.bind]
        cases readChains env count (start + 1) with
        | error e' => simp [Except.map]
        | ok rest => exact ⟨nofun, nofun⟩
      rw [hrest, ih]
      constructor
      · rintro ⟨i, hi, hlt, hflaw, hbefore⟩
        refine ⟨i, by omega, by omega, hflaw, fun j hj hji => ?_⟩
        rcases Nat.eq_or_lt_of_le hj with rfl | hj
        · exact ⟨a, ha⟩
        · exact hbefore j hj hji
      · rintro ⟨i, hi, hlt, hflaw, hbefore⟩
        have hne : start ≠ i := by
          rintro rfl
          cases ha.readChain_eq.symm.trans hflaw.readChain_eq
        exact ⟨i, by omega, by omega, hflaw, fun j hj hji => hbefore j (by omega) hji⟩
    · rw [he'.readChain_eq, Except.bind, Except.error.injEq]
      constructor
      · rintro rfl
        exact ⟨start, by omega, by omega, he', fun j hj hji => by omega⟩
      · rintro ⟨i, hi, -, hflaw, hbefore⟩
        rcases Nat.eq_or_lt_of_le hi with rfl | hlt
        · exact Except.error.inj (he'.readChain_eq.symm.trans hflaw.readChain_eq)
        · obtain ⟨b, hb⟩ := hbefore start (Nat.le_refl start) hlt
          cases hb.readChain_eq.symm.trans he'.readChain_eq

/-! ## Every place, the key and the check -/

/-- Why no configuration is made of so many places. -/
inductive Refusal (parse : Url.Parser) (env : Environment) (n : Nat) : Report → Prop where
  | place {e : Report} : FirstFlaw env n e → Refusal parse env n e
  | key {chains : List ChainAccess} : Places env n chains → env.get? "EVM_PRIVATE_KEY" = none →
      Refusal parse env n (.of "Missing EVM_PRIVATE_KEY for multi-chain wallet")
  | config {chains : List ChainAccess} {key : String} {e : Report} : Places env n chains →
      env.get? "EVM_PRIVATE_KEY" = some key → make parse chains key = .error e →
      Refusal parse env n e

theorem readPlaces_of_places (h : Places env n chains) : readPlaces parse env n =
    (required env "EVM_PRIVATE_KEY" " for multi-chain wallet").bind (make parse chains) := by
  rw [readPlaces, readChains_eq_ok_iff.2 h]
  rfl

theorem readPlaces_of_firstFlaw (h : FirstFlaw env n e) : readPlaces parse env n = .error e := by
  obtain ⟨i, hi, hin, hflaw⟩ := h
  rw [readPlaces, readChains_eq_error_iff.2 ⟨i, hi, by omega, hflaw⟩]
  rfl

theorem places_or_firstFlaw (env : Environment) (n : Nat) :
    (∃ chains, Places env n chains) ∨ ∃ e, FirstFlaw env n e := by
  cases h : readChains env n 1 with
  | ok chains => exact .inl ⟨chains, readChains_eq_ok_iff.1 h⟩
  | error e =>
    obtain ⟨i, hi, hin, hflaw⟩ := readChains_eq_error_iff.1 h
    exact .inr ⟨e, i, hi, by omega, hflaw⟩

theorem Refusal.readPlaces_eq (h : Refusal parse env n e) : readPlaces parse env n = .error e := by
  cases h with
  | place hflaw => exact readPlaces_of_firstFlaw hflaw
  | key hplaces hkey =>
    rw [readPlaces_of_places hplaces, required_of_none hkey]
    rfl
  | config hplaces hkey herror =>
    rw [readPlaces_of_places hplaces, required_of_some hkey]
    exact herror

theorem readPlaces_of_key (hplaces : Places env n chains)
    (hkey : env.get? "EVM_PRIVATE_KEY" = some key) :
    readPlaces parse env n = make parse chains key := by
  rw [readPlaces_of_places hplaces, required_of_some hkey]
  rfl

theorem made_or_refusal (parse : Url.Parser) (env : Environment) (n : Nat) :
    (∃ c chains key, Places env n chains ∧ env.get? "EVM_PRIVATE_KEY" = some key ∧
      make parse chains key = .ok c) ∨ ∃ e, Refusal parse env n e := by
  rcases places_or_firstFlaw env n with ⟨chains, hplaces⟩ | ⟨e, hflaw⟩
  · cases hkey : env.get? "EVM_PRIVATE_KEY" with
    | none => exact .inr ⟨_, .key hplaces hkey⟩
    | some key =>
      cases hmake : make parse chains key with
      | error e => exact .inr ⟨e, .config hplaces hkey hmake⟩
      | ok c => exact .inl ⟨c, chains, key, hplaces, rfl, hmake⟩
  · exact .inr ⟨e, .place hflaw⟩

theorem outcome_readPlaces (parse : Url.Parser) (env : Environment) (n : Nat) :
    (∀ c, readPlaces parse env n = .ok c ↔ ∃ chains key, Places env n chains ∧
      env.get? "EVM_PRIVATE_KEY" = some key ∧ make parse chains key = .ok c) ∧
    ∀ e, readPlaces parse env n = .error e ↔ Refusal parse env n e := by
  refine outcome_iff ?_ (fun _ => Refusal.readPlaces_eq) (made_or_refusal parse env n)
  rintro c ⟨chains, key, hplaces, hkey, hmake⟩
  exact (readPlaces_of_key hplaces hkey).trans hmake

theorem Block.normal_eq (h : Block env place a) : a.normal = a := by
  obtain ⟨s, -, hname⟩ := h.name
  have hnormal : normalName a.name = a.name := by
    rw [hname, ChainAccess.normalName_normalName]
  rw [ChainAccess.normal, hnormal]

theorem map_normal_of_blocks {places : List Nat} (h : List.Forall₂ (Block env) places chains) :
    chains.map ChainAccess.normal = chains := by
  induction h with
  | nil => rfl
  | cons hblock _ ih => rw [List.map_cons, hblock.normal_eq, ih]

theorem Places.chains_eq (h : Places env n chains) (hmake : make parse chains key = .ok c) :
    c.chains = chains := by
  rw [(make_eq_ok_iff.1 hmake).1]
  exact map_normal_of_blocks h

/-! ## The number of places -/

/-- The environment announces so many chains. -/
def CountIs (env : Environment) (n : Nat) : Prop :=
  ∃ s, env.get? "EVM_CHAINS_COUNT" = some s ∧ IsNumeral (Text.trim s) n ∧ n < 2 ^ 64

/-- The text that announces the number of chains is no number of 64 bits. -/
def CountIsBad (env : Environment) (s : String) : Prop :=
  env.get? "EVM_CHAINS_COUNT" = some s ∧ ∀ n < 2 ^ 64, ¬ IsNumeral (Text.trim s) n

theorem count_cases (env : Environment) :
    env.get? "EVM_CHAINS_COUNT" = none ∨ (∃ s, CountIsBad env s) ∨ ∃ n, CountIs env n := by
  cases hs : env.get? "EVM_CHAINS_COUNT" with
  | none => exact .inl rfl
  | some s =>
    cases hread : Number.readUnsigned (2 ^ 64) (Text.trim s) with
    | none => exact .inr (.inl ⟨s, hs, Number.readUnsigned_eq_none_iff.1 hread⟩)
    | some n => exact .inr (.inr ⟨n, s, hs, Number.readUnsigned_eq_some_iff.1 hread⟩)

theorem CountIs.readCount_eq (h : CountIs env n) : readCount env = .ok (some n) := by
  obtain ⟨s, hs, hn⟩ := h
  rw [readCount, hs, Number.readUnsigned64]
  simp only [Number.readUnsigned_eq_some_iff.2 hn]

theorem read_of_unset (h : env.get? "EVM_CHAINS_COUNT" = none) :
    read parse memory env = .ok none := by
  have hcount : readCount env = .ok none := by rw [readCount, h]
  rw [read, hcount]

theorem CountIsBad.read_eq (h : CountIsBad env s) :
    read parse memory env = .error (.report (.of ("Invalid EVM_CHAINS_COUNT: " ++ s))) := by
  have hcount : readCount env = .error (.of ("Invalid EVM_CHAINS_COUNT: " ++ s)) := by
    rw [readCount, h.1, Number.readUnsigned64]
    simp only [Number.readUnsigned_eq_none_iff.2 h.2]
  rw [read, hcount]

theorem maxChains_lt_greatest (memory : Nat) : maxChains memory < 2 ^ 64 - 1 := by
  unfold maxChains
  omega

theorem CountIs.read_zero (h : CountIs env 0) : read parse memory env = .ok none := by
  rw [read, h.readCount_eq]
  rfl

theorem CountIs.read_eq (h : CountIs env n) (hpos : 1 ≤ n) : read parse memory env =
    if maxChains memory < n then .error .noRoom
    else match readPlaces parse env n with
      | .error e => .error (.report e)
      | .ok c => .ok (some c) := by
  obtain ⟨n, rfl⟩ := Nat.exists_eq_add_of_le' hpos
  rw [read, h.readCount_eq]
  rfl

theorem CountIs.read_of_room (h : CountIs env n) (hpos : 1 ≤ n) (hroom : n ≤ maxChains memory) :
    read parse memory env = match readPlaces parse env n with
      | .error e => .error (.report e)
      | .ok c => .ok (some c) := by
  rw [h.read_eq hpos, if_neg (Nat.not_lt.2 hroom)]

theorem CountIs.read_without_room (h : CountIs env n) (hn : maxChains memory < n) :
    read parse memory env = .error .noRoom := by
  rw [h.read_eq (Nat.one_le_of_lt hn), if_pos hn]

theorem read_eq_none_iff :
    read parse memory env = .ok none ↔ env.get? "EVM_CHAINS_COUNT" = none ∨ CountIs env 0 := by
  constructor
  · intro h
    rcases count_cases env with hunset | ⟨s, hbad⟩ | ⟨n, hcount⟩
    · exact .inl hunset
    · cases h.symm.trans hbad.read_eq
    · rcases Nat.eq_zero_or_pos n with rfl | hpos
      · exact .inr hcount
      · rw [hcount.read_eq hpos] at h
        split at h
        · cases h
        · split at h <;> cases h
  · rintro (hunset | hzero)
    · exact read_of_unset hunset
    · exact hzero.read_zero

theorem CountIs.read_eq_made_iff (h : CountIs env n) (hpos : 1 ≤ n) (hroom : n ≤ maxChains memory) :
    read parse memory env = .ok (some c) ↔ ∃ chains key, Places env n chains ∧
      env.get? "EVM_PRIVATE_KEY" = some key ∧ make parse chains key = .ok c := by
  rw [h.read_of_room hpos hroom, ← (outcome_readPlaces parse env n).1]
  cases readPlaces parse env n with
  | error e => exact ⟨nofun, nofun⟩
  | ok c' => simp only [Except.ok.injEq, Option.some.injEq]

theorem CountIs.exists_read_iff (h : CountIs env n) (hpos : 1 ≤ n) (hroom : n ≤ maxChains memory) :
    (∃ c, read parse memory env = .ok (some c)) ↔ ∃ chains key, Places env n chains ∧
      env.get? "EVM_PRIVATE_KEY" = some key ∧ Acceptable parse chains key := by
  simp only [h.read_eq_made_iff hpos hroom, ← exists_make_eq_ok_iff]
  constructor
  · rintro ⟨c, chains, key, hplaces, hkey, hmake⟩
    exact ⟨chains, key, hplaces, hkey, c, hmake⟩
  · rintro ⟨chains, key, hplaces, hkey, c, hmake⟩
    exact ⟨c, chains, key, hplaces, hkey, hmake⟩

theorem CountIs.chains_of_read (h : CountIs env n) (hpos : 1 ≤ n) (hroom : n ≤ maxChains memory)
    (hread : read parse memory env = .ok (some c)) : c.chains.length = n ∧ Places env n c.chains ∧
      env.get? "EVM_PRIVATE_KEY" = some c.key.secret := by
  obtain ⟨chains, key, hplaces, hkey, hmake⟩ := (h.read_eq_made_iff hpos hroom).1 hread
  have hlength : (List.range' 1 n).length = chains.length := hplaces.length_eq
  have hsecret : c.key.secret = key := by
    rw [(make_eq_ok_iff.1 hmake).1]
  rw [hplaces.chains_eq hmake, hsecret]
  exact ⟨hlength.symm.trans List.length_range', hplaces, hkey⟩

theorem CountIs.read_eq_error_iff (h : CountIs env n) (hpos : 1 ≤ n) (hroom : n ≤ maxChains memory)
    {f : ReadFailure} :
    read parse memory env = .error f ↔ ∃ e, f = .report e ∧ Refusal parse env n e := by
  rw [h.read_of_room hpos hroom]
  simp only [← (outcome_readPlaces parse env n).2]
  cases readPlaces parse env n with
  | error e => simp only [Except.error.injEq, exists_eq_right', eq_comm]
  | ok c => exact ⟨nofun, fun ⟨_, _, h⟩ => nomatch h⟩

/-! ## Other variables -/

theorem toList_variableName (place : Nat) (suffix : String) : (variableName place suffix).toList =
    "EVM_CHAIN_".toList ++ ((Number.decimal place).toList ++ '_' :: suffix.toList) := by
  simp only [variableName, String.toList_append, List.append_assoc]
  rfl

theorem variableName_injective (h : variableName i s = variableName j t) : i = j ∧ s = t := by
  have hlists := congrArg String.toList h
  rw [toList_variableName, toList_variableName] at hlists
  exact Number.decimal_append_injective (by decide) (List.append_cancel_left hlists)

theorem ne_variableName (h : s.toList.take 10 ≠ "EVM_CHAIN_".toList) :
    s ≠ variableName place t := by
  rintro rfl
  rw [toList_variableName] at h
  exact h rfl

theorem readChain_congr
    (h : ∀ suffix, env'.get? (variableName i suffix) = env.get? (variableName i suffix)) :
    readChain env' i = readChain env i := by
  simp only [readChain, required, readNativeId, h]

theorem readChains_congr (h : ∀ i suffix, start ≤ i → i < start + count →
      env'.get? (variableName i suffix) = env.get? (variableName i suffix)) :
    readChains env' count start = readChains env count start := by
  induction count generalizing start with
  | zero => rfl
  | succ count ih =>
    have hfirst : readChain env' start = readChain env start :=
      readChain_congr fun suffix => h start suffix (by omega) (by omega)
    have hrest : readChains env' count (start + 1) = readChains env count (start + 1) :=
      ih fun i suffix hi hlt => h i suffix (by omega) (by omega)
    rw [readChains_succ, readChains_succ, hfirst, hrest]

/-- The environments differ in variables of places outside one to `n` at most. -/
def SameWithin (n : Nat) (env env' : Environment) : Prop :=
  ∀ name, (∀ i suffix, i = 0 ∨ n < i → name ≠ variableName i suffix) →
    env'.get? name = env.get? name

theorem SameWithin.get?_variableName (h : SameWithin n env env') (hi : 1 ≤ i) (hn : i ≤ n)
    (suffix : String) :
    env'.get? (variableName i suffix) = env.get? (variableName i suffix) := by
  refine h _ fun j suffix' hj heq => ?_
  obtain ⟨rfl, -⟩ := variableName_injective heq
  omega

theorem SameWithin.read_eq (h : SameWithin n env env') (hcount : CountIs env n) (hn : 1 ≤ n) :
    read parse memory env' = read parse memory env := by
  have hother : ∀ name : String, name.toList.take 10 ≠ "EVM_CHAIN_".toList →
      env'.get? name = env.get? name :=
    fun name hname => h name fun _ _ _ => ne_variableName hname
  have hcount' : CountIs env' n := by
    rwa [CountIs, hother "EVM_CHAINS_COUNT" (by decide)]
  have hplaces : readPlaces parse env' n = readPlaces parse env n := by
    rw [readPlaces, readPlaces, required, required, hother "EVM_PRIVATE_KEY" (by decide),
      readChains_congr fun i suffix hi hlt => h.get?_variableName hi (by omega) suffix]
  rw [hcount'.read_eq hn, hcount.read_eq hn, hplaces]

/-! ## Every environment -/

/-- What is read from every environment. Where there is room for as many chains as it announces, a
configuration of exactly those chains, or a report of the first thing that is wrong; and no variable
of any other place has a part in it. -/
theorem read_settled (parse : Url.Parser) (memory : Nat) (env : Environment) :
    (read parse memory env = .ok none ↔ env.get? "EVM_CHAINS_COUNT" = none ∨ CountIs env 0) ∧
    (∀ s, CountIsBad env s →
      read parse memory env = .error (.report (.of ("Invalid EVM_CHAINS_COUNT: " ++ s)))) ∧
    ∀ n, 1 ≤ n → CountIs env n →
      (maxChains memory < n → read parse memory env = .error .noRoom) ∧
      (n ≤ maxChains memory →
        ((∃ c, read parse memory env = .ok (some c)) ↔ ∃ chains key, Places env n chains ∧
          env.get? "EVM_PRIVATE_KEY" = some key ∧ Acceptable parse chains key) ∧
        (∀ c, read parse memory env = .ok (some c) → c.chains.length = n ∧ Places env n c.chains ∧
          env.get? "EVM_PRIVATE_KEY" = some c.key.secret) ∧
        ∀ f, read parse memory env = .error f ↔ ∃ e, f = .report e ∧ Refusal parse env n e) ∧
      ∀ env', SameWithin n env env' → read parse memory env' = read parse memory env := by
  refine ⟨read_eq_none_iff, fun s hbad => hbad.read_eq, fun n hn hcount => ⟨?_, ?_, ?_⟩⟩
  · exact hcount.read_without_room
  · intro hroom
    exact ⟨hcount.exists_read_iff hn hroom, fun c => hcount.chains_of_read hn hroom,
      fun f => hcount.read_eq_error_iff hn hroom⟩
  · exact fun env' h => h.read_eq hcount hn

/-- Two chains: the id of the first is that of the registry, and the second is switched off. -/
example :
    (match read Url.parser (2 ^ 63) ⟨[("EVM_CHAINS_COUNT", " +2 "),
        ("EVM_CHAIN_1_NAME", " Arbitrum "), ("EVM_CHAIN_1_RPC_URL", "https://arb1.example/rpc"),
        ("EVM_CHAIN_2_NAME", "Base"), ("EVM_CHAIN_2_RPC_URL", "http://localhost:8545"),
        ("EVM_CHAIN_2_CHAIN_ID", "8453 "), ("EVM_CHAIN_2_ENABLED", "false"),
        ("EVM_CHAIN_3_NAME", "ink"),
        ("EVM_PRIVATE_KEY", "0x" ++ String.ofList (List.replicate 64 '1'))]⟩ with
      | .ok (some c) => c.chains
      | _ => []) =
    [⟨"arbitrum", 42161, "https://arb1.example/rpc", true⟩,
      ⟨"base", 8453, "http://localhost:8545", false⟩] := by
  decide +kernel

/-- The greatest number that can be announced, and nothing else: the first place has no name, and
this is not what is reported, however much memory there is. -/
theorem read_of_greatest_count :
    let env : Environment := ⟨[("EVM_CHAINS_COUNT", "18446744073709551615")]⟩
    CountIs env (2 ^ 64 - 1) ∧ FirstFlaw env (2 ^ 64 - 1) (.of "Missing EVM_CHAIN_1_NAME") ∧
      ∀ memory, read Url.parser memory env = .error .noRoom := by
  intro env
  have hcount : CountIs env (2 ^ 64 - 1) :=
    ⟨_, rfl, Number.readUnsigned_eq_some_iff.1 (by decide +kernel)⟩
  have hflaw : Flaw env 1 (.of "Missing EVM_CHAIN_1_NAME") :=
    .name (by decide +kernel)
  exact ⟨hcount, ⟨1, by omega, by omega, hflaw, fun j hj hlt => by omega⟩,
    fun memory => hcount.read_without_room (maxChains_lt_greatest memory)⟩

end WalletConfig

end TokenBridge
