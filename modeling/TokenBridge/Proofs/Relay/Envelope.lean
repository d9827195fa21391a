import TokenBridge.Proofs.Json.Parser
import TokenBridge.Proofs.Relay.Response
import TokenBridge.Proofs.Text.Utf8

/-!
# Envelopes of messages

A message object comes bare, as the first item of a `data` array, or among the
items of a wallet: those of its `messages` array, or else of its `data` array
(`Lists`). Items of a wallet that are no objects are passed over, and the others
keep their order (`Gathers`). An object with an id means one message, whichever
envelope it comes in (`envelopes_agree`).
-/

namespace TokenBridge.Relay.Scan

/-- The response is one of success, and its body is this value. -/
structure Brings (r : Http.Response) (v : Json) : Prop where
  succeeds : Succeeds r
  body : Json.parseBytes r.content = some v

/-- The value is an object with an array of these items under the key. -/
def HoldsArray (key : String) (v : Json) (items : List Json) : Prop :=
  ∃ members, v = .obj members ∧ Json.find? key members = some (.arr items)

/-- The items of a wallet in the body of a response. -/
inductive Lists (v : Json) : List Json → Prop where
  | messages {items : List Json} : HoldsArray "messages" v items → Lists v items
  | data {items : List Json} : (∀ others, ¬ HoldsArray "messages" v others) →
      HoldsArray "data" v items → Lists v items
  | neither : (∀ others, ¬ HoldsArray "messages" v others) →
      (∀ others, ¬ HoldsArray "data" v others) → Lists v []

/-- The messages of the objects among the items, in their order. -/
inductive Gathers : List Json → List Message → Prop where
  | nil : Gathers [] []
  | object {members : List (String × Json)} {items : List Json} {ms : List Message} :
      Gathers items ms → Gathers (.obj members :: items) (.ofMembers members :: ms)
  | other {item : Json} {items : List Json} {ms : List Message} :
      (∀ members, item ≠ .obj members) → Gathers items ms → Gathers (item :: items) ms

variable {guid key : String} {r : Http.Response} {v : Json} {items others : List Json}
  {members body : List (String × Json)} {ms ns : List Message}

/-! ## Responses with a JSON body -/

def carrying (status : Nat) (v : Json) : Http.Response := ⟨status, Bytes.ofText v.written⟩

theorem brings_carrying {status : Nat} (hs : 200 ≤ status ∧ status < 300) (hne : status ≠ 204)
    (hv : Json.Writable Json.maxDepth v) : Brings (carrying status v) v := by
  refine ⟨hs, ?_⟩
  have h304 : status ≠ 304 := Nat.ne_of_lt (Nat.lt_trans hs.2 (by decide))
  have hcontent : (carrying status v).content = Bytes.ofText v.written :=
    if_neg fun h => h.elim hne h304
  rw [hcontent, Bytes.ofText, Json.parseBytes, Text.utf8?_toUTF8]
  exact Json.parse_written hv

theorem Brings.message_eq (h : Brings r (.obj body)) (hsel : Selects body (some members)) :
    message guid r = .ok (.ofMembers members) :=
  message_eq_iff.2 (.indexed h.succeeds h.body hsel)

/-! ## Items of a wallet -/

theorem arrayField?_iff : arrayField? key v = some items ↔ HoldsArray key v items := by
  constructor
  · intro h
    cases v with
    | obj members => exact ⟨members, rfl, arrayField?_eq_some.1 h⟩
    | _ => cases h
  · rintro ⟨members, rfl, h⟩
    exact arrayField?_eq_some.2 h

theorem arrayField?_eq_none : arrayField? key v = none ↔ ∀ others, ¬ HoldsArray key v others := by
  simp only [Option.eq_none_iff_forall_ne_some, ne_eq, arrayField?_iff]

theorem Lists.eq (h : Lists v items) :
    ((arrayField? "messages" v).or (arrayField? "data" v)).getD [] = items := by
  cases h with
  | messages hm => rw [arrayField?_iff.2 hm, Option.some_or, Option.getD_some]
  | data hm hd =>
    rw [arrayField?_eq_none.2 hm, arrayField?_iff.2 hd, Option.none_or, Option.getD_some]
  | neither hm hd =>
    rw [arrayField?_eq_none.2 hm, arrayField?_eq_none.2 hd, Option.none_or, Option.getD_none]

theorem exists_lists (v : Json) : ∃ items, Lists v items := by
  cases hm : arrayField? "messages" v with
  | some items => exact ⟨_, .messages (arrayField?_iff.1 hm)⟩
  | none =>
    cases hd : arrayField? "data" v with
    | some items => exact ⟨_, .data (arrayField?_eq_none.1 hm) (arrayField?_iff.1 hd)⟩
    | none => exact ⟨_, .neither (arrayField?_eq_none.1 hm) (arrayField?_eq_none.1 hd)⟩

/-! ## Messages of a wallet -/

theorem Gathers.eq (h : Gathers items ms) : messagesOf items = ms := by
  induction h with
  | nil => rfl
  | object _ ih => rw [← ih, messagesOf, List.filterMap_cons, messagesOf]
  | @other item _ _ hobj _ ih =>
    cases item with
    | obj members => exact absurd rfl (hobj members)
    | _ => exact ih

theorem gathers_messagesOf (items : List Json) : Gathers items (messagesOf items) := by
  induction items with
  | nil => exact .nil
  | cons item items ih =>
    cases item with
    | obj members => exact .object ih
    | _ => exact .other nofun ih

theorem Gathers.append (h : Gathers items ms) (h' : Gathers others ns) :
    Gathers (items ++ others) (ms ++ ns) := by
  induction h with
  | nil => exact h'
  | object _ ih => exact .object ih
  | other hobj _ ih => exact .other hobj ih

theorem Brings.walletMessages_eq (h : Brings r v) (hl : Lists v items) (hg : Gathers items ms) :
    walletMessages r = .ok ms := by
  rw [walletMessages, jsonBody_of_succeeds h.succeeds, h.body]
  simp only [Except.map]
  rw [hl.eq, hg.eq]

/-- A message object with an id is read as one message, wherever it stands: as the body of a lookup,
first in the `data` array of a body without an id, or among the items of a wallet. A wallet has the
messages of exactly the objects among its items, and none if it lists no items. -/
theorem envelopes_agree :
    (∀ o, HasId o →
      (∀ guid r, Brings r (.obj o) → message guid r = .ok (.ofMembers o)) ∧
      (∀ guid r body rest, Brings r (.obj body) → ¬ HasId body → Wraps body (.obj o :: rest) →
        message guid r = .ok (.ofMembers o)) ∧
      ∀ r v before after, Brings r v → Lists v (before ++ .obj o :: after) →
        ∃ earlier later, Gathers before earlier ∧ Gathers after later ∧
          walletMessages r = .ok (earlier ++ .ofMembers o :: later)) ∧
    ∀ r v, Brings r v → (∃ ms, walletMessages r = .ok ms) ∧
      ∀ ms, walletMessages r = .ok ms ↔ ∃ items, Lists v items ∧ Gathers items ms := by
  refine ⟨fun o hid => ⟨?bare, ?wrapped, ?listed⟩, fun r v h => ⟨?_, fun ms => ⟨?_, ?_⟩⟩⟩
  case bare =>
    intro guid r h
    exact h.message_eq (.named hid)
  case wrapped =>
    intro guid r body rest h hbody hwraps
    exact h.message_eq (.first hbody hwraps)
  case listed =>
    intro r v before after h hl
    have hbefore := gathers_messagesOf before
    have hafter := gathers_messagesOf after
    exact ⟨_, _, hbefore, hafter, h.walletMessages_eq hl (hbefore.append (.object hafter))⟩
  · obtain ⟨items, hl⟩ := exists_lists v
    exact ⟨_, h.walletMessages_eq hl (gathers_messagesOf items)⟩
  · intro hms
    obtain ⟨items, hl⟩ := exists_lists v
    have hg := gathers_messagesOf items
    rw [h.walletMessages_eq hl hg] at hms
    cases hms
    exact ⟨items, hl, hg⟩
  · rintro ⟨items, hl, hg⟩
    exact h.walletMessages_eq hl hg

/-- An object with an id and nothing else, in the text of three envelopes. -/
theorem envelopes_agree_on_text :
    let o : List (String × Json) := [("messageGuid", .str "0x01")]
    message "0x02" (carrying 200 (.obj o)) = .ok (.ofMembers o) ∧
    message "0x02" (carrying 200 (.obj [("data", .arr [.obj o, .null])])) = .ok (.ofMembers o) ∧
    walletMessages (carrying 200 (.obj [("data", .arr [.null, .obj o]), ("messages", .null)])) =
      .ok [.ofMembers o] := by
  intro o
  have hid : HasId o := ⟨_, List.mem_singleton.2 rfl, .inr rfl⟩
  have hnull : ∀ members, Json.null ≠ .obj members := nofun
  have ho {depth : Nat} : Json.Writable (depth + 1) (.obj o) :=
    .obj (List.nodup_singleton _) fun m hm => by
      rw [List.mem_singleton.1 hm]
      exact .str _
  have hlist {depth : Nat} (items : List Json) (h : ∀ v ∈ items, v = .null ∨ v = .obj o) :
      Json.Writable (depth + 2) (.arr items) :=
    .arr fun v hv => by
      obtain rfl | rfl := h v hv
      · exact .null
      · exact ho
  have hwrapped : Json.Writable Json.maxDepth (.obj [("data", .arr [.obj o, .null])]) :=
    .obj (List.nodup_singleton _) fun m hm => by
      rw [List.mem_singleton.1 hm]
      exact hlist _ (by simp)
  have hwallet : Json.Writable Json.maxDepth
      (.obj [("data", .arr [.null, .obj o]), ("messages", .null)]) :=
    .obj (by decide) fun m hm => by
      obtain rfl | rfl : m = _ ∨ m = _ := by simpa using hm
      · exact hlist _ (by simp)
      · exact .null
  have hno : ∀ others, ¬ HoldsArray "messages"
      (.obj [("data", .arr [.null, .obj o]), ("messages", .null)]) others := by
    rintro others ⟨members, hmembers, h⟩
    cases hmembers
    cases h
  have hbrings {v : Json} (hv : Json.Writable Json.maxDepth v) : Brings (carrying 200 v) v :=
    brings_carrying (by decide) (by decide) hv
  refine ⟨?_, ?_, ?_⟩
  · exact (envelopes_agree.1 o hid).1 _ _ (hbrings ho)
  · exact (envelopes_agree.1 o hid).2.1 _ _ _ _ (hbrings hwrapped) (by simp [HasId]) rfl
  · exact ((envelopes_agree.2 _ _ (hbrings hwallet)).2 _).2
      ⟨_, .data hno ⟨_, rfl, rfl⟩, .other hnull (.object .nil)⟩

end TokenBridge.Relay.Scan
