import TokenBridge.Proofs.Bridge.Cache
import TokenBridge.Scripted.Wallet

/-!
# Calls on a cache

A cache is asked for clients and cleared, in any order and by any names. `perform`
carries out such calls and writes down what each one came to; `History` says which
lists of calls can come about. `Keeps` is what holds of all of them: each entry
was made by a call that had the signer of just that chain, a failure changes
nothing, and until the cache is cleared a client once had is the only one of its
chain (`perform_keeps`).
-/

namespace TokenBridge.Bridge.Cache

inductive Operation where
  | get (name : String)
  | clear
  deriving DecidableEq, Repr

/-- A call with the cache before and after it, what was asked of the wallet meanwhile, and what
was had; clearing has no result. -/
structure Call where
  op : Operation
  before : Cache
  log : List (Event Wallet.interface)
  result : Option (Except BridgeError Kept)
  after : Cache

def perform {σ : Type} (h : Handler Wallet.interface σ) (w : Wallet) :
    List Operation → Cache → (now : Nat) → σ → List Call
  | [], _, _, _ => []
  | .get name :: ops, cache, now, s =>
    let run := (get w cache name).run h now s
    ⟨.get name, cache, run.events, some run.result.1, run.result.2⟩ ::
      perform h w ops run.result.2 run.finished run.state
  | .clear :: ops, cache, now, s =>
    ⟨.clear, cache, [], none, cache.clear⟩ :: perform h w ops cache.clear now s

variable {w : Wallet} {cache after : Cache} {call : Call} {calls l l' : List Call}
  {name key : String} {kept : Kept}

/-! ## One call -/

/-- What one call can come to. -/
inductive Call.Took (w : Wallet) : Call → Prop where
  | get {name : String} {before after : Cache} {log : List (Event Wallet.interface)}
      {y : Except BridgeError Kept} : Got w before (Text.lowerCase name) log y after →
      Took w ⟨.get name, before, log, some y, after⟩
  | clear {before : Cache} : Took w ⟨.clear, before, [], none, before.clear⟩

/-- The call made a client: it was handed the signer of a chain, and had a new client that is bound
to this chain and to this signer. -/
structure Call.Makes (call : Call) (key : String) (kept : Kept) : Prop where
  opened : ∃ asked answered,
    call.log = [⟨.openSigner key, Except.ok kept.signer, asked, answered⟩]
  had : call.result = some (.ok kept)
  chain : kept.client.chain.name = key
  address : kept.client.address = kept.signer.address
  serial : kept.serial = call.before.made
  counted : call.after.made = call.before.made + 1

theorem Got.makes {before : Cache} {log : List (Event Wallet.interface)}
    {y : Except BridgeError Kept} (h : Got w before (Text.lowerCase name) log y after)
    (hm : after.made ≠ before.made) :
    ∃ kept, before.find? (Text.lowerCase name) = none ∧
      Call.Makes ⟨.get name, before, log, some y, after⟩ (Text.lowerCase name) kept ∧
      after.clients = before.clients ++ [(Text.lowerCase name, kept)] := by
  cases h with
  | made signer chain asked answered hk _ hc =>
    refine ⟨(before.keep _ ⟨chain, signer.address⟩ signer).1, hk, ⟨⟨asked, answered, rfl⟩, rfl, ?_,
      rfl, rfl, rfl⟩, rfl⟩
    exact (Chain.eq_name_of_lookup_lowerCase hc).symm
  | _ => exact absurd rfl hm

theorem Got.eq_of_made_eq {before : Cache} {log : List (Event Wallet.interface)}
    {y : Except BridgeError Kept} (h : Got w before key log y after)
    (hm : after.made = before.made) : after = before := by
  cases h with
  | made => exact absurd hm (Nat.succ_ne_self _)
  | _ => rfl

namespace Call.Took

theorem of_makes (h : call.Took w) (hm : call.Makes key kept) :
    call.before.find? key = none ∧ call.after.find? key = some kept := by
  cases h with
  | clear => cases hm.had
  | @get name before after log y hg =>
    obtain ⟨kept', hk, hmakes, -⟩ := hg.makes (hm.counted ▸ Nat.succ_ne_self _)
    obtain rfl : kept = kept' :=
      Except.ok.inj (Option.some.inj (hm.had.symm.trans hmakes.had))
    obtain rfl : key = Text.lowerCase name := hm.chain.symm.trans hmakes.chain
    obtain rfl : y = .ok kept := Option.some.inj hm.had
    exact ⟨hk, hg.find?_self⟩

theorem makes_of_mem {entry : String × Kept} (h : call.Took w)
    (he : entry ∈ call.after.clients) :
    entry ∈ call.before.clients ∨ call.Makes entry.1 entry.2 := by
  cases h with
  | clear => cases he
  | @get name before after log y hg =>
    by_cases hm : after.made = before.made
    · rw [hg.eq_of_made_eq hm] at he
      exact .inl he
    · obtain ⟨kept, -, hmakes, hclients⟩ := hg.makes hm
      rw [hclients] at he
      rcases List.mem_append.1 he with he | he
      · exact .inl he
      · rw [List.mem_singleton.1 he]
        exact .inr hmakes

theorem nodup (h : call.Took w) (hn : (call.before.clients.map (·.1)).Nodup) :
    (call.after.clients.map (·.1)).Nodup := by
  cases h with
  | clear => exact List.nodup_nil
  | @get name before after log y hg =>
    by_cases hm : after.made = before.made
    · rwa [hg.eq_of_made_eq hm]
    · obtain ⟨kept, hk, -, hclients⟩ := hg.makes hm
      rw [hclients, List.map_append, List.nodup_append]
      refine ⟨hn, List.nodup_singleton _, ?_⟩
      rintro key hmem key' hkey' rfl
      obtain rfl : key = Text.lowerCase name := List.mem_singleton.1 hkey'
      obtain ⟨entry, hentry, hkey⟩ := List.mem_map.1 hmem
      have := List.find?_eq_none.1 (Option.map_eq_none_iff.1 hk) entry hentry
      exact this (beq_iff_eq.2 hkey)

theorem exists_makes (h : call.Took w) (hm : call.after.made ≠ call.before.made) :
    ∃ key kept, call.Makes key kept := by
  cases h with
  | clear => exact absurd rfl hm
  | get hg =>
    obtain ⟨kept, -, hmakes, -⟩ := hg.makes hm
    exact ⟨_, kept, hmakes⟩

theorem failed {e : BridgeError} (h : call.Took w) (hr : call.result = some (.error e)) :
    call.after = call.before := by
  cases h with
  | clear => cases hr
  | get hg =>
    obtain rfl := Option.some.inj hr
    cases hg <;> rfl

theorem find?_self (h : call.Took w) (ho : call.op = .get name)
    (hr : call.result = some (.ok kept)) :
    call.after.find? (Text.lowerCase name) = some kept := by
  cases h with
  | clear => cases ho
  | get hg =>
    obtain rfl := Operation.get.inj ho
    obtain rfl := Option.some.inj hr
    exact hg.find?_self

theorem find?_mono (h : call.Took w) (ho : call.op ≠ .clear)
    (hk : call.before.find? key = some kept) : call.after.find? key = some kept := by
  cases h with
  | clear => exact absurd rfl ho
  | get hg => exact hg.find?_mono hk

theorem of_find? (h : call.Took w) (ho : call.op = .get name)
    (hk : call.before.find? (Text.lowerCase name) = some kept) :
    call.log = [] ∧ call.result = some (.ok kept) ∧ call.after = call.before := by
  cases h with
  | clear => cases ho
  | get hg =>
    obtain rfl := Operation.get.inj ho
    obtain ⟨rfl, rfl, rfl⟩ := hg.of_find? hk
    exact ⟨rfl, rfl, rfl⟩

end Call.Took

/-! ## Many calls -/

/-- Calls that lead from one cache to another. -/
inductive History (w : Wallet) : Cache → List Call → Cache → Prop where
  | nil (cache : Cache) : History w cache [] cache
  | cons {call : Call} {calls : List Call} {after : Cache} : call.Took w →
      History w call.after calls after → History w call.before (call :: calls) after

theorem perform_history {σ : Type} (h : Handler Wallet.interface σ) (w : Wallet)
    (ops : List Operation) (cache : Cache) (now : Nat) (s : σ) :
    ∃ after, History w cache (perform h w ops cache now s) after := by
  induction ops generalizing cache now s with
  | nil => exact ⟨cache, .nil cache⟩
  | cons op ops ih =>
    cases op with
    | clear =>
      obtain ⟨after, hrest⟩ := ih cache.clear now s
      exact ⟨after, .cons .clear hrest⟩
    | get name =>
      let run := (get w cache name).run h now s
      obtain ⟨after, hrest⟩ := ih run.result.2 run.finished run.state
      exact ⟨after, .cons (.get (got_of_ends (Program.ends_run h _ now s))) hrest⟩

theorem History.of_cons (h : History w cache (call :: calls) after) :
    call.before = cache ∧ call.Took w ∧ History w call.after calls after := by
  cases h with
  | cons ht h => exact ⟨rfl, ht, h⟩

theorem History.of_append (h : History w cache (l ++ l') after) :
    ∃ mid, History w cache l mid ∧ History w mid l' after := by
  induction l generalizing cache with
  | nil => exact ⟨cache, .nil cache, h⟩
  | cons call l ih =>
    obtain ⟨rfl, ht, h⟩ := h.of_cons
    obtain ⟨mid, hl, hl'⟩ := ih h
    exact ⟨mid, .cons ht hl, hl'⟩

theorem History.append {mid : Cache} (h : History w cache l mid) (h' : History w mid l' after) :
    History w cache (l ++ l') after := by
  induction h with
  | nil => exact h'
  | cons ht _ ih => exact .cons ht (ih h')

theorem History.so_far {past rest : List Call} (h : History w cache calls after)
    (hs : calls = past ++ call :: rest) :
    History w cache (past ++ [call]) call.after ∧ History w call.after rest after := by
  obtain ⟨mid, hpast, hrest⟩ := (hs ▸ h).of_append
  obtain ⟨rfl, ht, hrest⟩ := hrest.of_cons
  exact ⟨hpast.append (.cons ht (.nil _)), hrest⟩

theorem History.took (h : History w cache calls after) : ∀ call ∈ calls, call.Took w := by
  induction h with
  | nil => exact fun _ he => absurd he List.not_mem_nil
  | cons ht _ ih => exact List.forall_mem_cons.2 ⟨ht, ih⟩

theorem History.makes_of_mem {entry : String × Kept} (h : History w cache calls after)
    (he : entry ∈ after.clients) :
    entry ∈ cache.clients ∨ ∃ maker ∈ calls, maker.Makes entry.1 entry.2 := by
  induction h with
  | nil => exact .inl he
  | cons ht _ ih =>
    rcases ih he with he | ⟨maker, hmem, hm⟩
    · exact (ht.makes_of_mem he).imp_right fun hm => ⟨_, List.mem_cons_self, hm⟩
    · exact .inr ⟨maker, List.mem_cons_of_mem _ hmem, hm⟩

theorem History.nodup (h : History w cache calls after) (hn : (cache.clients.map (·.1)).Nodup) :
    (after.clients.map (·.1)).Nodup := by
  induction h with
  | nil => exact hn
  | cons ht _ ih => exact ih (ht.nodup hn)

theorem History.find?_mono (h : History w cache calls after)
    (ho : ∀ call ∈ calls, call.op ≠ .clear) (hk : cache.find? key = some kept) :
    after.find? key = some kept := by
  induction h with
  | nil => exact hk
  | cons ht _ ih =>
    obtain ⟨hcall, hcalls⟩ := List.forall_mem_cons.1 ho
    exact ih hcalls (ht.find?_mono hcall hk)

/-- Unless the cache is cleared, no two calls make clients of one chain. -/
theorem History.makes_once (h : History w cache calls after)
    (ho : ∀ call ∈ calls, call.op ≠ .clear) :
    calls.Pairwise fun c c' => ∀ key kept key' kept', c.Makes key kept → c'.Makes key' kept' →
      kept.client.chain ≠ kept'.client.chain := by
  induction h with
  | nil => exact .nil
  | cons ht h ih =>
    obtain ⟨-, hcalls⟩ := List.forall_mem_cons.1 ho
    refine .cons ?_ (ih hcalls)
    rintro c' hmem key kept key' kept' hm hm' heq
    have hkey : key = key' := by rw [← hm.chain, ← hm'.chain, heq]
    -- The first client is still kept when the second call begins, so that one makes none.
    obtain ⟨front, rest, rfl⟩ := List.append_of_mem hmem
    obtain ⟨mid, hfront, hrest⟩ := h.of_append
    obtain ⟨rfl, ht', -⟩ := hrest.of_cons
    have hkept := hfront.find?_mono (fun c hc => hcalls c (List.mem_append_left _ hc))
      (ht.of_makes hm).2
    cases hkept.symm.trans (hkey ▸ (ht'.of_makes hm').1)

/-! ## Runs -/

/-- What holds of calls that began with an empty cache. -/
structure Keeps (w : Wallet) (calls : List Call) : Prop where
  /-- A call has the client that is kept, makes one where it can, or fails for one of three
  reasons. -/
  took : ∀ call ∈ calls, call.Took w
  /-- An entry was made by one of the calls so far, for its key. -/
  entries : ∀ {past call rest}, calls = past ++ call :: rest → ∀ entry ∈ call.after.clients,
    ∃ maker ∈ past ++ [call], maker.Makes entry.1 entry.2
  distinct : ∀ call ∈ calls, (call.after.clients.map (·.1)).Nodup
  failed : ∀ call ∈ calls, ∀ e, call.result = some (.error e) → call.after = call.before
  /-- A client that was had is had again by every name with the same lower-case form. -/
  again : ∀ {past call mid later rest name name' kept},
    calls = past ++ call :: (mid ++ later :: rest) → (∀ c ∈ mid, c.op ≠ .clear) →
    call.op = .get name → call.result = some (.ok kept) →
    later.op = .get name' → Text.lowerCase name' = Text.lowerCase name →
    later.log = [] ∧ later.result = some (.ok kept) ∧ later.after = later.before
  /-- No client is made but by a call that has it. -/
  counted : ∀ call ∈ calls, call.after.made ≠ call.before.made → ∃ key kept, call.Makes key kept
  once : ∀ {past mid rest}, calls = past ++ (mid ++ rest) → (∀ c ∈ mid, c.op ≠ .clear) →
    mid.Pairwise fun c c' => ∀ key kept key' kept', c.Makes key kept → c'.Makes key' kept' →
      kept.client.chain ≠ kept'.client.chain

/-- The history of a cache keeps each client to its chain, whoever hands out signers. -/
theorem perform_keeps {σ : Type} (h : Handler Wallet.interface σ) (w : Wallet)
    (ops : List Operation) (now : Nat) (s : σ) : Keeps w (perform h w ops .empty now s) := by
  obtain ⟨after, hcalls⟩ := perform_history h w ops .empty now s
  refine ⟨hcalls.took, ?_, ?_, fun call hc e => (hcalls.took call hc).failed, ?_, ?_, ?_⟩
  · intro past call rest hsplit entry he
    obtain ⟨hpast, -⟩ := hcalls.so_far hsplit
    rcases hpast.makes_of_mem he with hempty | hmade
    · cases hempty
    · exact hmade
  · intro call hc
    obtain ⟨past, rest, hsplit⟩ := List.append_of_mem hc
    exact (hcalls.so_far hsplit).1.nodup List.nodup_nil
  · intro past call mid later rest name name' kept hsplit hmid ho hr ho' hname
    obtain ⟨-, hrest⟩ := hcalls.so_far hsplit
    obtain ⟨last, hmids, hlater⟩ := hrest.of_append
    obtain ⟨rfl, ht', -⟩ := hlater.of_cons
    have hkept := (hcalls.took call (by simp [hsplit])).find?_self ho hr
    exact ht'.of_find? ho' (hname ▸ hmids.find?_mono hmid hkept)
  · intro call hc hm
    exact (hcalls.took call hc).exists_makes hm
  · intro past mid rest hsplit hmid
    obtain ⟨first, -, h₁⟩ := (hsplit ▸ hcalls).of_append
    obtain ⟨last, hmids, -⟩ := h₁.of_append
    exact hmids.makes_once hmid

/-- The Kelvin sign is a `k` in lower case, so the second call has the client of the first. -/
example :
    let x : Scripted.Wallet := { address := .zero, chains := [("ink", ⟨5, 1, false, {}⟩)] }
    let calls := perform Scripted.Wallet.handler x.toWallet [.get "ink", .get "IN\u212A"] .empty 0 x
    calls.map (·.log.length) = [1, 0] ∧ calls.map (·.after.size) = [1, 1] := by
  decide +kernel

end TokenBridge.Bridge.Cache
