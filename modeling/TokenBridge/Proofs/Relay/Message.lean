import TokenBridge.Proofs.Json.Reader
import TokenBridge.Proofs.Relay.Status
import TokenBridge.Relay.Message

/-!
# The two forms of a message

`Written members m` says that the members of an object hold a message in its
exact form. The strict reading accepts just these objects (`fromJson?_obj`), and
the tolerant one takes the same message from them, but for an empty hash of the
delivering transaction (`Written.ofMembers`). A message writes its own members
so if its status is one that is read from a text. Such a message is read back
both ways (`reads_exact_form`).
-/

namespace TokenBridge

namespace Relay.Message

open Json (find?)

variable {members : List (String × Json)} {m : Message} {key : String} {keys : List String}

/-! ## The exact form -/

/-- The members of an object hold a message in its exact form. -/
structure Written (members : List (String × Json)) (m : Message) : Prop where
  guid : find? "guid" members = some (.str m.guid)
  sourceEndpoint : find? "srcEid" members = some (.word m.sourceEndpoint)
  destinationEndpoint : find? "dstEid" members = some (.word m.destinationEndpoint)
  sender : find? "srcUaAddress" members = some (.str m.sender)
  receiver : find? "dstUaAddress" members = some (.str m.receiver)
  sourceHash : find? "srcTxHash" members = some (.str m.sourceHash)
  destinationHash : (find? "dstTxHash" members).getD .null = .opt .str m.destinationHash
  status : ∃ s, find? "status" members = some (.str s) ∧ m.status = .read s
  sourceBlock : find? "srcBlockNumber" members = some (.word m.sourceBlock)
  destinationBlock : (find? "dstBlockNumber" members).getD .null = .opt .word m.destinationBlock
  created : find? "created" members = some (.str m.created)
  updated : find? "updated" members = some (.str m.updated)

theorem written_members {k : Status} (m : Message) (hk : k = .read m.status.text) :
    Written m.members { m with status := k } := by
  constructor
  case status => exact ⟨m.status.text, by simp [members, find?], hk⟩
  all_goals simp [members, find?]

theorem written_of_fromJson? (h : fromJson? (.obj members) = some m) : Written members m := by
  unfold fromJson? at h
  split at h
  · next guid sourceEndpoint destinationEndpoint sender receiver sourceHash destinationHash status
      sourceBlock destinationBlock created updated hfields =>
    simp only [Json.fields?, fields, List.map_cons, List.map_nil, Option.some.injEq,
      List.cons.injEq] at hfields
    obtain ⟨f₁, f₂, f₃, f₄, f₅, f₆, f₇, f₈, f₉, f₁₀, f₁₁, f₁₂, -⟩ := hfields
    simp only [bind, Option.bind_eq_some_iff, Json.string?_eq_some, Json.word?_eq_some,
      Json.option?_string, Json.option?_word, pure, Option.some.injEq] at h
    obtain ⟨_, rfl, _, rfl, _, rfl, _, rfl, _, rfl, _, rfl, _, hhash, s, rfl, _, rfl, _, hblock, _,
      rfl, _, rfl, hm⟩ := h
    generalize hstatus : Status.read s = status at hm
    subst hm
    exact ⟨f₁, f₂, f₃, f₄, f₅, f₆, f₇ ▸ hhash, ⟨s, f₈, hstatus.symm⟩, f₉, f₁₀ ▸ hblock, f₁₁, f₁₂⟩
  · cases h

theorem fromJson?_of_written (h : Written members m) : fromJson? (.obj members) = some m := by
  obtain ⟨s, hs, hstatus⟩ := h.status
  have hfields : (Json.obj members).fields? fields 0 = some [some (.str m.guid),
      some (.word m.sourceEndpoint), some (.word m.destinationEndpoint), some (.str m.sender),
      some (.str m.receiver), some (.str m.sourceHash), find? "dstTxHash" members, some (.str s),
      some (.word m.sourceBlock), find? "dstBlockNumber" members, some (.str m.created),
      some (.str m.updated)] := by
    simp only [Json.fields?, fields, List.map_cons, List.map_nil, h.guid, h.sourceEndpoint,
      h.destinationEndpoint, h.sender, h.receiver, h.sourceHash, hs, h.sourceBlock, h.created,
      h.updated]
  unfold fromJson?
  rw [hfields]
  simp only [Json.string?_str, Json.word?_word, Json.option?_string.2 h.destinationHash,
    Json.option?_word.2 h.destinationBlock, bind, Option.bind_some, pure, ← hstatus]

theorem fromJson?_obj : fromJson? (.obj members) = some m ↔ Written members m :=
  ⟨written_of_fromJson?, fromJson?_of_written⟩

/-! ## The tolerant form -/

theorem stringField?_of_find? {s : String} (h : find? key members = some (.str s)) :
    stringField? members (key :: keys) = some s := by
  simp [stringField?, h, Json.string?]

theorem wholeField?_of_find? {width : Nat} {w : BitVec width} (hw : width ≤ 64)
    (h : find? key members = some (.word w)) :
    wholeField? members (key :: keys) = some (w.setWidth 64) := by
  have hlt : w.toNat < 2 ^ 64 := Nat.lt_of_lt_of_le w.isLt (Nat.pow_le_pow_right (by decide) hw)
  simp only [wholeField?, List.findSome?_cons, h, Option.bind_some, Json.word, Json.nat,
    wholeValue?, wholeOfNumber, if_pos hlt, BitVec.ofNat_toNat]

theorem stringField?_of_opt {a : Option String}
    (h : (find? key members).getD .null = .opt .str a) : stringField? members [key] = a := by
  cases hf : find? key members <;> cases a <;> simp_all [stringField?, Json.opt, Json.string?]

theorem wholeField?_of_opt {a : Option (BitVec 64)}
    (h : (find? key members).getD .null = .opt .word a) : wholeField? members [key] = a := by
  cases hf : find? key members with
  | none => cases a <;> simp_all [wholeField?, Json.opt, Json.word, Json.nat]
  | some v =>
    rw [hf, Option.getD_some] at h
    cases a with
    | none => simp [wholeField?, hf, h, Json.opt, wholeValue?]
    | some w =>
      have hw : find? key members = some (.word w) := hf.trans (congrArg some h)
      rw [wholeField?_of_find? (Nat.le_refl 64) hw, BitVec.setWidth_eq]

theorem statusField_of_find? {s : String} (h : find? "status" members = some (.str s)) :
    statusField members = .read s := by
  unfold statusField
  rw [h]

theorem Written.ofMembers (h : Written members m) :
    ofMembers members = { m with destinationHash := m.destinationHash.filter (!·.isEmpty) } := by
  obtain ⟨s, hs, hstatus⟩ := h.status
  have hid (w : BitVec 32) : (w.setWidth 64).setWidth 32 = w := by
    rw [BitVec.setWidth_setWidth_of_le _ (by decide), BitVec.setWidth_eq]
  unfold Message.ofMembers
  simp only [stringField?_of_find? h.guid, wholeField?_of_find? (by decide) h.sourceEndpoint,
    wholeField?_of_find? (by decide) h.destinationEndpoint, stringField?_of_find? h.sender,
    stringField?_of_find? h.receiver, stringField?_of_find? h.sourceHash,
    stringField?_of_opt h.destinationHash, statusField_of_find? hs, ← hstatus,
    wholeField?_of_find? (Nat.le_refl 64) h.sourceBlock, wholeField?_of_opt h.destinationBlock,
    stringField?_of_find? h.created, stringField?_of_find? h.updated, Option.getD_some,
    BitVec.setWidth_eq, hid]

/-! ## Reading back -/

theorem filter_not_isEmpty_eq_self {a : Option String} :
    a.filter (!·.isEmpty) = a ↔ a ≠ some "" := by
  cases a with
  | none => simp
  | some s => by_cases h : s = "" <;> simp [h, Option.filter]

/-- The strict reading gives a message back from its own form just where its status is one that is
read from a text, and the tolerant one where moreover its hash of the delivering transaction is not
empty. On whatever the strict reading accepts the two agree, but for such a hash. Reading the text
of a status that was read changes nothing; a known status is read from the texts that are its word,
and every other text is kept. -/
theorem reads_exact_form :
    (∀ m : Message,
      (fromJson? m.toJson = some m ↔ ∃ s, m.status = .read s) ∧
      (ofMembers m.members = m ↔ (∃ s, m.status = .read s) ∧ m.destinationHash ≠ some "")) ∧
    (∀ members m, fromJson? (.obj members) = some m →
      ofMembers members = { m with destinationHash := m.destinationHash.filter (!·.isEmpty) }) ∧
    ∀ s, Status.read (Status.read s).text = .read s ∧
      (∀ k, (∀ t, k ≠ .unknown t) →
        (Status.read s = k ↔ Text.raiseCase (Text.trim s) = k.text)) ∧
      ∀ t, Status.read s = .unknown t → t = s := by
  refine ⟨fun m => ?_, fun _ _ h => (fromJson?_obj.1 h).ofMembers, fun s => ?_⟩
  · rw [Status.exists_read_iff]
    -- Both forms give the message with its status read again.
    generalize hk : Status.read m.status.text = k
    have hw := written_members m hk.symm
    rw [toJson, fromJson?_of_written hw, hw.ofMembers, Option.some.injEq,
      ← filter_not_isEmpty_eq_self]
    refine ⟨⟨congrArg Message.status, ?_⟩, ⟨fun h => ⟨congrArg Message.status h,
      congrArg Message.destinationHash h⟩, ?_⟩⟩
    · intro hstatus
      rw [hstatus]
    · rintro ⟨hstatus, hhash⟩
      rw [hstatus, hhash]
  · refine ⟨Status.read_text_read s, fun k hk => Status.read_eq_iff hk, fun t ht => ?_⟩
    rcases Status.read_cases s with ⟨hknown, -⟩ | ⟨hkept, -⟩
    · exact absurd ht (hknown t)
    · exact (Status.unknown.inj (hkept.symm.trans ht)).symm

end Relay.Message

end TokenBridge
