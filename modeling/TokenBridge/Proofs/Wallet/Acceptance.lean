import TokenBridge.Proofs.Chain
import TokenBridge.Proofs.Text.HexDigit
import TokenBridge.Proofs.Wallet.Config

/-!
# What a wallet accepts

Which chains and which key make a configuration, said of the chains as they are
given and in terms that no check uses (`Acceptable`): a name that is not blank,
an endpoint, for the chains of the registry the id it gives them, no name and no
id twice once the names are in the form under which they are filed, and a key of
64 digits. None of this speaks of the order of the chains (`Acceptable.of_perm`).

The names are filed in lower case while the names asked for are compared after
folding ASCII letters only. No lower-case form has a letter to fold, so two
chains that both answer to a name would have been filed under one name
(`byName?_eq_some_iff`): an accepted configuration has at most one chain for a
name, and one for an id.
-/

namespace TokenBridge

/-! ## Endpoints -/

namespace Url

/-- The text is a URL of a web server, as a parser reads it. -/
def IsEndpoint (parse : Parser) (text : String) : Prop :=
  ∃ u, parse text = .ok u ∧ (u.scheme = "http" ∨ u.scheme = "https") ∧ u.host.isSome = true

theorem checkEndpoint_eq_ok {parse : Parser} {text name : String} :
    checkEndpoint parse text name = .ok () ↔ IsEndpoint parse text := by
  simp only [checkEndpoint, IsEndpoint]
  cases parse text with
  | error e => exact ⟨nofun, fun ⟨_, h, _⟩ => nomatch h⟩
  | ok u =>
    simp only [Except.ok.injEq, exists_eq_left']
    split
    · next hscheme => exact ⟨nofun, fun h => absurd h.1 (not_or.2 hscheme)⟩
    · next hscheme =>
      have hweb : u.scheme = "http" ∨ u.scheme = "https" := by
        by_contra hnot
        exact hscheme (not_or.1 hnot)
      split
      · next hhost =>
        have hnone : u.host = none := Option.isNone_iff_eq_none.1 hhost
        exact ⟨nofun, fun h => by simp [hnone] at h⟩
      · next hhost => exact ⟨fun _ => ⟨hweb, Option.isSome_iff_ne_none.2
          (mt Option.isNone_iff_eq_none.2 hhost)⟩, fun _ => rfl⟩

end Url

/-! ## Keys -/

namespace WalletConfig

/-- The text is `0x` and 64 hexadecimal digits. -/
def HasKeyForm (key : String) : Prop :=
  ∃ digits : List Char, key.toList = '0' :: 'x' :: digits ∧ digits.length = 64 ∧
    ∀ d ∈ digits, Text.IsHexDigit d

theorem isKey_iff {key : String} : isKey key = true ↔ HasKeyForm key := by
  unfold isKey HasKeyForm
  split
  · next digits hkey =>
    simp [hkey, Text.isSome_hexValue?]
  · next hform => exact ⟨nofun, fun ⟨digits, hkey, _⟩ => absurd hkey (hform digits)⟩

end WalletConfig

variable {parse : Url.Parser} {a : ChainAccess} {chains chains' : List ChainAccess}
  {c : WalletConfig} {key : String}

/-! ## One chain -/

namespace ChainAccess

theorem name_normal (a : ChainAccess) : a.normal.name = normalName a.name := by
  rw [normal]

theorem url_normal (a : ChainAccess) : a.normal.url = a.url := by
  rw [normal]

theorem nativeId_normal (a : ChainAccess) : a.normal.nativeId = a.nativeId := by
  rw [normal]

theorem lookup_normalName_eq_some {name : String} {chain : Chain} :
    Chain.lookup (normalName name) = some chain ↔ normalName name = chain.name := by
  constructor
  · exact fun h => Chain.eq_name_of_lookup_lowerCase h
  · intro h
    rw [h]
    exact Chain.lookup_name chain

theorem validate_eq_ok : a.validate parse = .ok () ↔
    a.name ≠ "" ∧ (a.url ≠ "" ∧ Url.IsEndpoint parse a.url) ∧
      ∀ chain, Chain.lookup a.name = some chain → a.nativeId = chain.nativeId := by
  simp only [validate, ite_throw_bind_eq_ok, check_bind_eq_ok, Url.checkEndpoint_eq_ok,
    String.isEmpty_iff, ← ne_eq, and_assoc]
  refine and_congr_right fun _ => and_congr_right fun _ => and_congr_right fun _ => ?_
  cases Chain.lookup a.name with
  | none => exact ⟨fun _ _ h => absurd h.symm (Option.some_ne_none _), fun _ => rfl⟩
  | some entry =>
    simp only [ite_throw_eq_ok, ne_eq, Decidable.not_not, Option.some.injEq, forall_eq']
    exact eq_comm

theorem validate_normal_eq_ok : a.normal.validate parse = .ok () ↔
    normalName a.name ≠ "" ∧ (a.url ≠ "" ∧ Url.IsEndpoint parse a.url) ∧
      ∀ chain : Chain, normalName a.name = chain.name → a.nativeId = chain.nativeId := by
  simp only [validate_eq_ok, name_normal, url_normal, nativeId_normal, lookup_normalName_eq_some]

theorem carriesToken_normal (a : ChainAccess) :
    a.normal.carriesToken = (Chain.all.map Chain.name).contains a.normal.name := by
  rw [Bool.eq_iff_iff, carriesToken, Chain.isSupported, List.contains_iff_mem, List.mem_map,
    name_normal, Option.isSome_iff_exists]
  simp only [lookup_normalName_eq_some]
  constructor
  · rintro ⟨chain, hchain⟩
    exact ⟨chain, chain.mem_all, hchain.symm⟩
  · rintro ⟨chain, -, hchain⟩
    exact ⟨chain, hchain.symm⟩

end ChainAccess

/-! ## Acceptance -/

namespace WalletConfig

/-- The chains and the key that make a configuration. -/
structure Acceptable (parse : Url.Parser) (chains : List ChainAccess) (key : String) : Prop where
  nonempty : chains ≠ []
  name : ∀ a ∈ chains, ChainAccess.normalName a.name ≠ ""
  url : ∀ a ∈ chains, a.url ≠ "" ∧ Url.IsEndpoint parse a.url
  registry : ∀ a ∈ chains, ∀ chain : Chain,
    ChainAccess.normalName a.name = chain.name → a.nativeId = chain.nativeId
  names : (chains.map fun a => ChainAccess.normalName a.name).Nodup
  ids : (chains.map (·.nativeId)).Nodup
  key : HasKeyForm key

theorem Acceptable.of_perm (hp : chains.Perm chains') (h : Acceptable parse chains key) :
    Acceptable parse chains' key where
  nonempty := mt (fun hnil => List.perm_nil.1 (hnil ▸ hp)) h.nonempty
  name a ha := h.name a (hp.mem_iff.2 ha)
  url a ha := h.url a (hp.mem_iff.2 ha)
  registry a ha := h.registry a (hp.mem_iff.2 ha)
  names := (hp.map _).nodup_iff.1 h.names
  ids := (hp.map _).nodup_iff.1 h.ids
  key := h.key

theorem valid_normal_iff :
    Valid parse ⟨chains.map ChainAccess.normal, ⟨key⟩⟩ ↔ Acceptable parse chains key := by
  have haccess : (∀ a ∈ chains.map ChainAccess.normal, a.validate parse = .ok ()) ↔
      ∀ a ∈ chains, ChainAccess.normalName a.name ≠ "" ∧ (a.url ≠ "" ∧ Url.IsEndpoint parse a.url) ∧
        ∀ chain : Chain, ChainAccess.normalName a.name = chain.name →
          a.nativeId = chain.nativeId := by
    simp only [List.forall_mem_map, ChainAccess.validate_normal_eq_ok]
  have hnames : (chains.map ChainAccess.normal).map (·.name) =
      chains.map fun a => ChainAccess.normalName a.name := List.map_map
  have hids : (chains.map ChainAccess.normal).map (·.nativeId) = chains.map (·.nativeId) :=
    List.map_map.trans (List.map_congr_left fun a _ => a.nativeId_normal)
  constructor
  · rintro ⟨hne, hall, hn, hi, hkey⟩
    rw [haccess] at hall
    rw [hnames] at hn
    rw [hids] at hi
    exact ⟨mt List.map_eq_nil_iff.2 hne, fun a ha => (hall a ha).1, fun a ha => (hall a ha).2.1,
      fun a ha => (hall a ha).2.2, hn, hi, isKey_iff.1 hkey⟩
  · rintro ⟨hne, hname, hurl, hregistry, hn, hi, hkey⟩
    rw [← hnames] at hn
    rw [← hids] at hi
    exact ⟨mt List.map_eq_nil_iff.1 hne,
      haccess.2 fun a ha => ⟨hname a ha, hurl a ha, hregistry a ha⟩, hn, hi, isKey_iff.2 hkey⟩

theorem make_eq_ok_iff_acceptable : make parse chains key = .ok c ↔
    Acceptable parse chains key ∧ c = ⟨chains.map ChainAccess.normal, ⟨key⟩⟩ := by
  rw [make_eq_ok_iff, and_comm]
  constructor
  · rintro ⟨hv, rfl⟩
    exact ⟨valid_normal_iff.1 hv, rfl⟩
  · rintro ⟨ha, rfl⟩
    exact ⟨valid_normal_iff.2 ha, rfl⟩

theorem exists_make_eq_ok_iff :
    (∃ c, make parse chains key = .ok c) ↔ Acceptable parse chains key := by
  simp only [make_eq_ok_iff_acceptable, exists_and_left, exists_eq, and_true]

/-! ## Lookups -/

/-- Among elements of different keys the first with a key is the one that has it. -/
theorem find?_eq_some_iff_of_nodup {α β : Type} {l : List α} {f : α → β} (hn : (l.map f).Nodup)
    {p : α → Bool} {y : β} (hp : ∀ a ∈ l, p a = true ↔ f a = y) {a : α} :
    l.find? p = some a ↔ a ∈ l ∧ f a = y := by
  constructor
  · intro h
    have hmem := List.mem_of_find?_eq_some h
    exact ⟨hmem, (hp a hmem).1 (List.find?_some h)⟩
  · rintro ⟨hmem, hkey⟩
    obtain ⟨b, hb⟩ := Option.isSome_iff_exists.1
      (List.find?_isSome.2 ⟨a, hmem, (hp a hmem).2 hkey⟩)
    have hmem' := List.mem_of_find?_eq_some hb
    have hkey' := (hp b hmem').1 (List.find?_some hb)
    rw [hb, List.inj_on_of_nodup_map hn hmem' hmem (hkey'.trans hkey.symm)]

theorem map_foldChar_name_of_make (h : make parse chains key = .ok c) (ha : a ∈ c.chains) :
    a.name.toList.map Text.foldChar = a.name.toList := by
  rw [← lowerCase_name_of_make h ha]
  exact Text.map_foldChar_lowerCase a.name

/-- A name finds the chain that is filed under it, up to the case of ASCII letters, and no other. -/
theorem byName?_eq_some_iff (h : make parse chains key = .ok c) {name : String} :
    c.byName? name = some a ↔ a ∈ c.chains ∧ Text.sameText a.name name = true := by
  have hsame : ∀ b ∈ c.chains, Text.sameText b.name name = true ↔
      b.name.toList = name.toList.map Text.foldChar := by
    intro b hb
    rw [Text.sameText_iff, map_foldChar_name_of_make h hb]
  have hn : (c.chains.map fun b => b.name.toList).Nodup := by
    have hnames := (make_eq_ok_iff.1 h).2.names.map
      (f := String.toList) fun _ _ => String.toList_injective
    rwa [List.map_map] at hnames
  rw [byName?, find?_eq_some_iff_of_nodup hn hsame]
  exact and_congr_right fun ha => (hsame a ha).symm

theorem byId?_eq_some_iff (h : make parse chains key = .ok c) {id : Nat} :
    c.byId? id = some a ↔ a ∈ c.chains ∧ a.nativeId = id :=
  find?_eq_some_iff_of_nodup (make_eq_ok_iff.1 h).2.ids fun _ _ => beq_iff_eq

theorem tokenNames_of_make (h : make parse chains key = .ok c) :
    c.tokenNames =
      (c.chains.filter fun a => a.enabled && (Chain.all.map Chain.name).contains a.name).map
        (·.name) := by
  rw [tokenNames, enabled, List.filter_filter]
  refine congrArg _ (List.filter_congr fun a ha => ?_)
  rw [(make_eq_ok_iff.1 h).1] at ha
  obtain ⟨b, -, rfl⟩ := List.mem_map.1 ha
  rw [Bool.and_comm, b.carriesToken_normal]

/-- Every list of chains and every key: what is accepted, in whatever order the chains come, and
what an accepted configuration then answers. -/
theorem make_accepts (parse : Url.Parser) (chains : List ChainAccess) (key : String) :
    ((∃ c, make parse chains key = .ok c) ↔ Acceptable parse chains key) ∧
    (∀ chains', chains.Perm chains' →
      ((∃ c, make parse chains key = .ok c) ↔ ∃ c, make parse chains' key = .ok c)) ∧
    ∀ c, make parse chains key = .ok c →
      c.chains = chains.map (fun a => { a with name := Text.lowerCase (Text.trim a.name) }) ∧
      (∀ name a, c.byName? name = some a ↔ a ∈ c.chains ∧ Text.sameText a.name name = true) ∧
      (∀ id a, c.byId? id = some a ↔ a ∈ c.chains ∧ a.nativeId = id) ∧
      c.enabledNames = (c.chains.filter fun a => a.enabled).map (·.name) ∧
      c.tokenNames =
        (c.chains.filter fun a => a.enabled && (Chain.all.map Chain.name).contains a.name).map
          (·.name) := by
  refine ⟨exists_make_eq_ok_iff, fun chains' hp => ?_, fun c h => ?_⟩
  · rw [exists_make_eq_ok_iff, exists_make_eq_ok_iff]
    exact ⟨.of_perm hp, .of_perm hp.symm⟩
  · have hchains : c.chains = chains.map ChainAccess.normal := by
      rw [(make_eq_ok_iff.1 h).1]
    exact ⟨hchains, fun _ _ => byName?_eq_some_iff h, fun _ _ => byId?_eq_some_iff h, rfl,
      tokenNames_of_make h⟩

/-- Names are filed in small letters and found in any; a chain that is off is found, not listed. -/
theorem make_accepts_two_chains :
    let chains : List ChainAccess :=
      [⟨" ARBITRUM", 42161, "https://one.example", true⟩,
        ⟨"Local", 31337, "http://127.0.0.1:8545", false⟩]
    let key := "0x1111111111111111111111111111111111111111111111111111111111111111"
    ∃ c, make Url.parser chains key = .ok c ∧
      c.byName? "ArbiTrum" = some ⟨"arbitrum", 42161, "https://one.example", true⟩ ∧
      c.byId? 31337 = some ⟨"local", 31337, "http://127.0.0.1:8545", false⟩ ∧
      c.enabledNames = ["arbitrum"] ∧ c.tokenNames = ["arbitrum"] := by
  intro chains key
  obtain ⟨haccepted, -, hanswers⟩ := make_accepts Url.parser chains key
  have hnames : chains.map (fun a => ChainAccess.normalName a.name) = ["arbitrum", "local"] := by
    decide +kernel
  have hregistry : ∀ a ∈ chains, ∀ chain ∈ Chain.all,
      ChainAccess.normalName a.name = chain.name → a.nativeId = chain.nativeId := by
    decide +kernel
  have hurl : ∀ a ∈ chains, a.url ≠ "" ∧ Url.checkEndpoint Url.parser a.url "" = .ok () := by
    decide +kernel
  obtain ⟨c, hc⟩ := haccepted.2
    { nonempty := by decide
      name := by decide +kernel
      url := fun a ha => (hurl a ha).imp_right Url.checkEndpoint_eq_ok.1
      registry := fun a ha chain => hregistry a ha chain chain.mem_all
      names := by rw [hnames]; decide
      ids := by decide
      key := isKey_iff.1 (by decide +kernel) }
  obtain ⟨hchains, hname, hid, henabled, htoken⟩ := hanswers c hc
  have hchains : c.chains = [⟨"arbitrum", 42161, "https://one.example", true⟩,
      ⟨"local", 31337, "http://127.0.0.1:8545", false⟩] := by
    rw [hchains]
    decide +kernel
  rw [hchains] at hname hid henabled htoken
  exact ⟨c, hc, (hname ..).2 ⟨.head _, by decide +kernel⟩, (hid ..).2 ⟨.tail _ (.head _), rfl⟩,
    henabled.trans (by decide +kernel), htoken.trans (by decide +kernel)⟩

end WalletConfig

end TokenBridge
