import TokenBridge.Contract.Output
import TokenBridge.Proofs.Bytes
import TokenBridge.Proofs.Contract.Calldata

/-!
# Return data

A method declares what it returns, in whole words (`Returned`). Its return data
is read word by word, each at its own place (`Returns`), and is the encoding of
something that the method can return, except for a flag, of which any byte other
than zero is taken for `true`. The nonce of a sent message is read and left out.
So return data of any other length is refused, and what is read back from an
encoding is what was encoded (`Call.decodeOutput_exact`).
-/

namespace TokenBridge.Contract

def wordAt (data : Bytes) (i : Nat) : Bytes := (data.drop (32 * i)).take 32

def amountAt (data : Bytes) (i : Nat) : Amount := amountOfWord (wordAt data i)

/-- The fee whose two words begin at a place. -/
def feeAt (data : Bytes) (i : Nat) : MessagingFee := ⟨amountAt data i, amountAt data (i + 1)⟩

/-- The return data of a method stands for the value. -/
inductive Returns (data : Bytes) : Method → Value → Prop where
  | quoteSend : data.length = 64 → Returns data .quoteSend (.fee (feeAt data 0))
  | send : data.length = 192 → (wordAt data 1).toNat < 2 ^ 64 →
      Returns data .send (.tuple [.bytes (wordAt data 0), .fee (feeAt data 2),
        .uint (amountAt data 4), .uint (amountAt data 5)])
  | allowance : data.length = 32 → Returns data .allowance (.uint (amountAt data 0))
  | approve : data.length = 32 → (wordAt data 0).toNat < 2 ^ 8 →
      Returns data .approve (.bool (decide ((wordAt data 0).toNat ≠ 0)))
  | balanceOf : data.length = 32 → Returns data .balanceOf (.uint (amountAt data 0))

def Method.Admits (data : Bytes) : Method → Prop
  | quoteSend => data.length = 64
  | send => data.length = 192 ∧ (wordAt data 1).toNat < 2 ^ 64
  | approve => data.length = 32 ∧ (wordAt data 0).toNat < 2 ^ 8
  | allowance | balanceOf => data.length = 32

inductive Returned where
  | quote (fee : MessagingFee)
  | receipts (guid : Hash) (nonce : BitVec 64) (fee : MessagingFee) (sent received : Amount)
  | allowance (x : Amount)
  | approval (granted : Bool)
  | balance (x : Amount)

namespace Returned

def method : Returned → Method
  | quote _ => .quoteSend
  | receipts .. => .send
  | allowance _ => .allowance
  | approval _ => .approve
  | balance _ => .balanceOf

def components : Returned → List Argument
  | quote fee => [fee.argument]
  | receipts guid nonce fee sent received =>
    [.tuple [.hash guid, .nat nonce.toNat, fee.argument], .tuple [.amount sent, .amount received]]
  | allowance x | balance x => [.amount x]
  | approval granted => [.bool granted]

def encode (o : Returned) : Bytes := (Argument.tuple o.components).encode

/-- The value that callers get to see. -/
def value : Returned → Value
  | quote fee => .fee fee
  | receipts guid _ fee sent received =>
    .tuple [.bytes guid.bytes, .fee fee, .uint sent, .uint received]
  | allowance x | balance x => .uint x
  | approval granted => .bool granted

def words : Returned → List Bytes
  | quote fee => [fee.native.bytes, fee.network.bytes]
  | receipts guid nonce fee sent received =>
    [guid.bytes, Bytes.ofNat 32 nonce.toNat, fee.native.bytes, fee.network.bytes, sent.bytes,
      received.bytes]
  | allowance x | balance x => [x.bytes]
  | approval granted => [Bytes.ofNat 32 granted.toNat]

end Returned

variable {data : Bytes} {c : Call} {m : Method} {v : Value} {o o' : Returned} {ws : List Bytes}
  {w : Bytes} {i n : Nat}

/-! ## Words -/

theorem length_wordAt (h : 32 * (i + 1) ≤ data.length) : (wordAt data i).length = 32 := by
  rw [wordAt, List.length_take, List.length_drop]
  omega

theorem wordAt_drop (data : Bytes) (i : Nat) : wordAt (data.drop 32) i = wordAt data (i + 1) := by
  rw [wordAt, wordAt, List.drop_drop, Nat.mul_succ, Nat.add_comm]

theorem map_wordAt_succ (n : Nat) (data : Bytes) : (List.range (n + 1)).map (wordAt data) =
    data.take 32 :: (List.range n).map (wordAt (data.drop 32)) := by
  rw [List.range_succ_eq_map, List.map_cons, List.map_map]
  exact congrArg _ (List.map_congr_left fun i _ => (wordAt_drop data i).symm)

theorem firstWords_eq (n : Nat) (data : Bytes) :
    firstWords n data = (List.range n).map (wordAt data) := by
  induction n generalizing data with
  | zero => rfl
  | succ n ih => rw [firstWords, ih, map_wordAt_succ]

theorem flatten_words (h : data.length = 32 * n) :
    ((List.range n).map (wordAt data)).flatten = data := by
  induction n generalizing data with
  | zero => exact (List.length_eq_zero_iff.1 h).symm
  | succ n ih =>
    have hrest : (data.drop 32).length = 32 * n := by
      rw [List.length_drop]
      omega
    rw [map_wordAt_succ, List.flatten_cons, ih hrest, List.take_append_drop]

theorem wordAt_flatten (h : ∀ w ∈ ws, w.length = 32) (hi : ws[i]? = some w) :
    wordAt ws.flatten i = w := by
  induction ws generalizing i with
  | nil => cases hi
  | cons first ws ih =>
    obtain ⟨hfirst, hws⟩ := List.forall_mem_cons.1 h
    cases i with
    | zero =>
      cases hi
      exact List.take_left' hfirst
    | succ i =>
      rw [← wordAt_drop, List.flatten_cons, List.drop_left' hfirst]
      exact ih hws hi

/-! ## Numbers of words -/

theorem toNat_word_lt (h : w.length = 32) : w.toNat < 2 ^ 256 := by
  have hlt := Bytes.toNat_lt w
  rw [h] at hlt
  exact Nat.lt_of_lt_of_eq hlt (by decide)

theorem ofNat_toNat_word (h : w.length = 32) : Bytes.ofNat 32 w.toNat = w := by
  have hw := Bytes.ofNat_toNat w
  rwa [h] at hw

theorem amountOfWord_bytes (x : Amount) : amountOfWord x.bytes = x := by
  rw [amountOfWord, Amount.bytes, Parameter.toNat_ofNat_word x.isLt, BitVec.ofNat_toNat,
    BitVec.setWidth_eq]

theorem bytes_amountOfWord (h : w.length = 32) : (amountOfWord w).bytes = w := by
  rw [Amount.bytes, amountOfWord, BitVec.toNat_ofNat, Nat.mod_eq_of_lt (toNat_word_lt h),
    ofNat_toNat_word h]

theorem toNat_wordAt_lt (i : Nat) (h : 32 * (i + 1) ≤ data.length) :
    (wordAt data i).toNat < 2 ^ 256 :=
  toNat_word_lt (length_wordAt h)

/-- The bits that a word in range may have. -/
def WordType.bits : WordType → Nat
  | full => 256
  | bool => 8
  | nonce => 64

theorem WordType.admits_iff {t : WordType} (h : w.length = 32) :
    t.admits w = true ↔ w.toNat < 2 ^ t.bits := by
  cases t with
  | full => exact iff_of_true rfl (toNat_word_lt h)
  | bool => exact Bytes.all_take_eq_zero 31 1 h
  | nonce => exact Bytes.all_take_eq_zero 24 8 h

/-! ## Decoding -/

namespace Call

def undecodable (c : Call) (e : OutputError) : Report :=
  .of ("Failed to decode " ++ c.method ++ " output: " ++ e.message)

def words (c : Call) (data : Bytes) : List Bytes :=
  (List.range c.outputTypes.length).map (wordAt data)

def InRange (c : Call) (data : Bytes) : Prop :=
  ∀ t ∈ c.outputTypes.zip (c.words data), t.2.toNat < 2 ^ t.1.bits

theorem length_of_mem_words (h : data.length = 32 * c.outputTypes.length) (hw : w ∈ c.words data) :
    w.length = 32 := by
  obtain ⟨i, hi, rfl⟩ := List.mem_map.1 hw
  have hi := List.mem_range.1 hi
  exact length_wordAt (by omega)

theorem all_admits_iff (h : data.length = 32 * c.outputTypes.length) :
    (c.outputTypes.zip (c.words data)).all (fun t => t.1.admits t.2) = true ↔ c.InRange data := by
  rw [List.all_eq_true]
  exact forall₂_congr fun t ht =>
    WordType.admits_iff (length_of_mem_words h (List.of_mem_zip ht).2)

theorem outputWords_of_length (h : data.length = 32 * c.outputTypes.length) :
    outputWords c data =
      if !(c.outputTypes.zip (c.words data)).all (fun t => t.1.admits t.2) then
        .error (.outOfRange c.outputTypeText data)
      else .ok (c.words data) := by
  -- Both checks of the length pass, which leaves the one of the ranges.
  have heq : outputWords c data = _ := (if_neg (by omega)).trans (if_neg (by omega))
  rw [heq, firstWords_eq]
  rfl

theorem decodeOutput_of_short (h : data.length < 32 * c.outputTypes.length) :
    c.decodeOutput data = .error (c.undecodable .overrun) := by
  have hwords : outputWords c data = .error .overrun := if_pos h
  rw [decodeOutput, hwords]
  rfl

theorem decodeOutput_of_long (h : 32 * c.outputTypes.length < data.length) :
    c.decodeOutput data = .error (c.undecodable .trailingData) := by
  have hwords : outputWords c data = .error .trailingData :=
    (if_neg (Nat.lt_asymm h)).trans (if_pos (Nat.ne_of_gt h))
  rw [decodeOutput, hwords]
  rfl

theorem decodeOutput_of_outOfRange (h : data.length = 32 * c.outputTypes.length)
    (hrange : ¬ c.InRange data) :
    c.decodeOutput data = .error (c.undecodable (.outOfRange c.outputTypeText data)) := by
  rw [decodeOutput, outputWords_of_length h,
    Bool.eq_false_iff.2 (mt (all_admits_iff h).1 hrange)]
  rfl

theorem decodeOutput_of_inRange (h : data.length = 32 * c.outputTypes.length)
    (hrange : c.InRange data) : c.decodeOutput data = .ok (valueOfWords c (c.words data)) := by
  rw [decodeOutput, outputWords_of_length h, (all_admits_iff h).2 hrange]
  rfl

theorem decodeOutput_eq_ok : c.decodeOutput data = .ok v ↔
    data.length = 32 * c.outputTypes.length ∧ c.InRange data ∧
      valueOfWords c (c.words data) = v := by
  constructor
  · intro h
    obtain hshort | hlength | hlong := Nat.lt_trichotomy data.length (32 * c.outputTypes.length)
    · cases (decodeOutput_of_short hshort).symm.trans h
    · by_cases hrange : c.InRange data
      · cases (decodeOutput_of_inRange hlength hrange).symm.trans h
        exact ⟨hlength, hrange, rfl⟩
      · cases (decodeOutput_of_outOfRange hlength hrange).symm.trans h
    · cases (decodeOutput_of_long hlong).symm.trans h
  · rintro ⟨hlength, hrange, rfl⟩
    exact decodeOutput_of_inRange hlength hrange

end Call

theorem returns_of_decodeOutput (h : c.decodeOutput data = .ok v) : Returns data c.kind v := by
  obtain ⟨hlength, hrange, rfl⟩ := Call.decodeOutput_eq_ok.1 h
  cases c with
  | quoteSend => exact .quoteSend hlength
  | send =>
    have hnonce : (wordAt data 1).toNat < 2 ^ 64 :=
      hrange (.nonce, wordAt data 1) (.tail _ (.head _))
    exact .send hlength hnonce
  | allowance => exact .allowance hlength
  | approve =>
    have hflag : (wordAt data 0).toNat < 2 ^ 8 := hrange (.bool, wordAt data 0) (.head _)
    have h := Returns.approve hlength hflag
    rwa [← Bytes.any_ne_zero] at h
  | balanceOf => exact .balanceOf hlength

theorem Returns.length_eq (h : Returns data c.kind v) :
    data.length = 32 * c.outputTypes.length := by
  cases c <;> cases h <;> assumption

theorem Returns.inRange (h : Returns data c.kind v) : c.InRange data := by
  cases c with
  | quoteSend =>
    cases h with
    | quoteSend hlength =>
      exact List.forall_mem_cons.2 ⟨toNat_wordAt_lt 0 (by omega),
        List.forall_mem_singleton.2 (toNat_wordAt_lt 1 (by omega))⟩
  | send =>
    cases h with
    | send hlength hnonce =>
      exact List.forall_mem_cons.2 ⟨toNat_wordAt_lt 0 (by omega),
        List.forall_mem_cons.2 ⟨hnonce,
        List.forall_mem_cons.2 ⟨toNat_wordAt_lt 2 (by omega),
        List.forall_mem_cons.2 ⟨toNat_wordAt_lt 3 (by omega),
        List.forall_mem_cons.2 ⟨toNat_wordAt_lt 4 (by omega),
        List.forall_mem_singleton.2 (toNat_wordAt_lt 5 (by omega))⟩⟩⟩⟩⟩
  | allowance | balanceOf =>
    exact List.forall_mem_singleton.2 (toNat_wordAt_lt 0 (Nat.le_of_eq h.length_eq.symm))
  | approve =>
    cases h with
    | approve _ hflag => exact List.forall_mem_singleton.2 hflag

theorem Returns.decodeOutput (h : Returns data c.kind v) : c.decodeOutput data = .ok v := by
  refine Call.decodeOutput_eq_ok.2 ⟨h.length_eq, h.inRange, ?_⟩
  cases c <;> cases h
  case approve => exact congrArg Value.bool (Bytes.any_ne_zero _)
  all_goals rfl

/-! ## Encoding -/

namespace Returned

theorem encode_eq (o : Returned) : o.encode = o.words.flatten := by
  cases o with
  | approval granted => cases granted <;> rfl
  | _ => simp [encode, words, components, MessagingFee.argument, Argument.encode,
      Argument.encodeFields, Argument.isDynamic, Argument.anyDynamic, Argument.amount,
      Argument.hash, Argument.nat]

theorem length_words (o : Returned) : ∀ w ∈ o.words, w.length = 32 := by
  cases o <;> simp [words, Amount.bytes, Hash.bytes, Bytes.length_ofNat]

theorem length_encode (o : Returned) : o.encode.length = 32 * o.words.length := by
  rw [encode_eq, List.length_flatten, List.map_congr_left o.length_words, List.map_const',
    List.sum_replicate_nat, Nat.mul_comm]

theorem length_outputTypes (h : o.method = c.kind) :
    c.outputTypes.length = o.words.length := by
  cases o <;> cases c <;> cases h <;> simp [words, Call.outputTypes]

theorem wordAt_encode (hi : o.words[i]? = some w) : wordAt o.encode i = w := by
  rw [encode_eq]
  exact wordAt_flatten o.length_words hi

theorem amountAt_encode {x : Amount} (hi : o.words[i]? = some x.bytes) :
    amountAt o.encode i = x := by
  rw [amountAt, wordAt_encode hi, amountOfWord_bytes]

theorem feeAt_encode {f : MessagingFee} (h : o.words[i]? = some f.native.bytes)
    (h' : o.words[i + 1]? = some f.network.bytes) : feeAt o.encode i = f := by
  rw [feeAt, amountAt_encode h, amountAt_encode h']

theorem toNat_wordAt_encode (hi : o.words[i]? = some (Bytes.ofNat 32 n)) (hn : n < 2 ^ 256) :
    (wordAt o.encode i).toNat = n := by
  rw [wordAt_encode hi, Parameter.toNat_ofNat_word hn]

theorem returns_encode (o : Returned) : Returns o.encode o.method o.value := by
  have hlength := o.length_encode
  cases o with
  | quote fee =>
    have h := Returns.quoteSend hlength
    rwa [feeAt_encode rfl rfl] at h
  | receipts guid nonce fee sent received =>
    have hnonce : (wordAt (receipts guid nonce fee sent received).encode 1).toNat = nonce.toNat :=
      toNat_wordAt_encode rfl (Nat.lt_trans nonce.isLt (by decide))
    have h := Returns.send hlength (hnonce ▸ nonce.isLt)
    rwa [wordAt_encode rfl, feeAt_encode rfl rfl, amountAt_encode rfl, amountAt_encode rfl] at h
  | allowance x =>
    have h := Returns.allowance hlength
    rwa [amountAt_encode rfl] at h
  | approval granted =>
    have hflag : (wordAt (approval granted).encode 0).toNat = granted.toNat :=
      toNat_wordAt_encode rfl (Nat.lt_of_le_of_lt granted.toNat_le (by decide))
    have hlt : granted.toNat < 2 ^ 8 := Nat.lt_of_le_of_lt granted.toNat_le (by decide)
    have hvalue : decide (granted.toNat ≠ 0) = granted := by cases granted <;> rfl
    have h := Returns.approve hlength (hflag ▸ hlt)
    rwa [hflag, hvalue] at h
  | balance x =>
    have h := Returns.balanceOf hlength
    rwa [amountAt_encode rfl] at h

theorem encode_of_words (n : Nat) (h : data.length = 32 * n)
    (hwords : o.words = (List.range n).map (wordAt data)) : o.encode = data := by
  rw [encode_eq, hwords, flatten_words h]

/-- Apart from the nonce, what a method returns can be told from the value. -/
theorem value_inj (h : o.method = o'.method) (hm : o.method ≠ .send) (hv : o.value = o'.value) :
    o = o' := by
  cases o <;> cases o' <;> simp_all [method, value]

end Returned

theorem Returns.exists_encode (h : Returns data m v) (hm : m ≠ .approve) :
    ∃ o : Returned, o.method = m ∧ o.value = v ∧ o.encode = data := by
  have hword (i : Nat) (hi : 32 * (i + 1) ≤ data.length) :
      (amountAt data i).bytes = wordAt data i := bytes_amountOfWord (length_wordAt hi)
  cases h with
  | quoteSend hlength =>
    refine ⟨.quote (feeAt data 0), rfl, rfl, Returned.encode_of_words 2 hlength ?_⟩
    rw [Returned.words, feeAt, hword 0 (by omega), hword 1 (by omega)]
    rfl
  | send hlength hnonce =>
    have hguid : (Hash.ofBytes (wordAt data 0)).bytes = wordAt data 0 := hword 0 (by omega)
    have hcount : (BitVec.ofNat 64 (wordAt data 1).toNat).toNat = (wordAt data 1).toNat := by
      rw [BitVec.toNat_ofNat, Nat.mod_eq_of_lt hnonce]
    refine ⟨.receipts (Hash.ofBytes (wordAt data 0)) (BitVec.ofNat 64 (wordAt data 1).toNat)
      (feeAt data 2) (amountAt data 4) (amountAt data 5), rfl, ?_,
      Returned.encode_of_words 6 hlength ?_⟩
    · rw [Returned.value, hguid]
    · rw [Returned.words, hguid, hcount, ofNat_toNat_word (length_wordAt (by omega)), feeAt,
        hword 2 (by omega), hword 3 (by omega), hword 4 (by omega), hword 5 (by omega)]
      rfl
  | allowance hlength =>
    refine ⟨.allowance (amountAt data 0), rfl, rfl, Returned.encode_of_words 1 hlength ?_⟩
    rw [Returned.words, hword 0 (by omega)]
    rfl
  | approve => exact absurd rfl hm
  | balanceOf hlength =>
    refine ⟨.balance (amountAt data 0), rfl, rfl, Returned.encode_of_words 1 hlength ?_⟩
    rw [Returned.words, hword 0 (by omega)]
    rfl

theorem exists_returns_iff : (∃ v, Returns data m v) ↔ m.Admits data := by
  constructor
  · rintro ⟨v, h⟩
    cases h with
    | quoteSend hlength | allowance hlength | balanceOf hlength => exact hlength
    | send hlength hrange | approve hlength hrange => exact ⟨hlength, hrange⟩
  · intro h
    cases m with
    | quoteSend => exact ⟨_, .quoteSend h⟩
    | send => exact ⟨_, .send h.1 h.2⟩
    | allowance => exact ⟨_, .allowance h⟩
    | approve => exact ⟨_, .approve h.1 h.2⟩
    | balanceOf => exact ⟨_, .balanceOf h⟩

/-- Return data is decoded exactly. It must have just the length of what the method returns, and a
nonce or a flag must be in range; then the parts of the value are the words at their places. What is
encoded is read back, less a nonce; data that is shorter, longer or out of range is refused, each
with a report of its own. Conversely, decoded return data is the encoding of something of that
value, flags aside; where no nonce was left out, there is one such thing only. -/
theorem Call.decodeOutput_exact (c : Call) :
    (∀ data v, c.decodeOutput data = .ok v ↔ Returns data c.kind v) ∧
    (∀ data, (∃ v, c.decodeOutput data = .ok v) ↔ c.kind.Admits data) ∧
    (∀ o : Returned, o.method = c.kind →
      c.decodeOutput o.encode = .ok o.value ∧
      (∀ data, data.length < o.encode.length →
        c.decodeOutput data = .error (c.undecodable .overrun)) ∧
      (∀ data, o.encode.length < data.length →
        c.decodeOutput data = .error (c.undecodable .trailingData)) ∧
      ∀ data, data.length = o.encode.length → ¬ c.kind.Admits data →
        c.decodeOutput data = .error (c.undecodable (.outOfRange c.outputTypeText data))) ∧
    (c.kind ≠ .approve → ∀ data v, c.decodeOutput data = .ok v →
      ∃ o : Returned, o.method = c.kind ∧ o.value = v ∧ o.encode = data) ∧
    (c.kind ≠ .approve → c.kind ≠ .send → ∀ o : Returned, o.method = c.kind →
      ∀ data, c.decodeOutput data = .ok o.value → o.encode = data) := by
  have hiff : ∀ data v, c.decodeOutput data = .ok v ↔ Returns data c.kind v :=
    fun _ _ => ⟨returns_of_decodeOutput, Returns.decodeOutput⟩
  have hadmits : ∀ data, (∃ v, c.decodeOutput data = .ok v) ↔ c.kind.Admits data := by
    intro data
    simp only [hiff]
    exact exists_returns_iff
  have hexists : c.kind ≠ .approve → ∀ data v, c.decodeOutput data = .ok v →
      ∃ o : Returned, o.method = c.kind ∧ o.value = v ∧ o.encode = data :=
    fun hm data v h => ((hiff data v).1 h).exists_encode hm
  refine ⟨hiff, hadmits, fun o ho => ?_, hexists, fun hflag hsend o ho data h => ?_⟩
  · have hlength : 32 * c.outputTypes.length = o.encode.length := by
      rw [Returned.length_outputTypes ho, o.length_encode]
    refine ⟨(hiff _ _).2 (ho ▸ o.returns_encode), fun data h => decodeOutput_of_short (hlength ▸ h),
      fun data h => decodeOutput_of_long (hlength ▸ h), fun data h hno => ?_⟩
    -- Words in range would be decoded, so the data would be admitted.
    have hcount := h.trans hlength.symm
    refine decodeOutput_of_outOfRange hcount fun hrange => hno ?_
    exact (hadmits data).1 ⟨_, decodeOutput_of_inRange hcount hrange⟩
  · obtain ⟨o', ho', hv, hencode⟩ := hexists hflag data _ h
    rw [← hencode, Returned.value_inj (ho.trans ho'.symm) (ho ▸ hsend) hv.symm]

/-- A flag of two is `true` as well, though `true` is encoded as one. -/
example (spender : Address) (x : Amount) :
    (Call.approve spender x).decodeOutput (List.replicate 31 0 ++ [2]) = .ok (.bool true) := rfl

end TokenBridge.Contract
