import TokenBridge.Proofs.Relay.Cancellation
import TokenBridge.Relay.Scan

/-!
# Responses of the delivery index

`Reads` lists how the response to a lookup is read, whatever its status and its
body: a message that is missing, a status that is refused, a body that cannot be
decoded, or an object, in which the message is selected (`Selects`). Of these,
`Pending` are the responses that leave the message open. A wait over HTTP goes on
with just these, and any other response ends it (`wait_over_responses`).
-/

namespace TokenBridge.Relay.Scan

variable {guid : String} {r : Http.Response} {members : List (String × Json)}
  {selected : Option (List (String × Json))} {y : Except RelayError Message}

/-! ## Objects -/

def HasId (members : List (String × Json)) : Prop :=
  ∃ m ∈ members, m.1 = "guid" ∨ m.1 = "messageGuid"

/-- The object has an array of these items under `data`. -/
def Wraps (members : List (String × Json)) (items : List Json) : Prop :=
  Json.find? "data" members = some (.arr items)

/-- The members of the message in an object; none if it has no message. -/
inductive Selects (members : List (String × Json)) : Option (List (String × Json)) → Prop where
  | named : HasId members → Selects members (some members)
  | bare : ¬ HasId members → (∀ items, ¬ Wraps members items) → Selects members (some members)
  | first {first : List (String × Json)} {rest : List Json} : ¬ HasId members →
      Wraps members (.obj first :: rest) → Selects members (some first)
  | empty : ¬ HasId members → Wraps members [] → Selects members none
  | unusable {item : Json} {rest : List Json} : ¬ HasId members → Wraps members (item :: rest) →
      (∀ inner, item ≠ .obj inner) → Selects members none

theorem hasGuid_iff : hasGuid members = true ↔ HasId members := by
  simp [hasGuid, HasId]

theorem arrayField?_eq_some {key : String} {items : List Json} :
    arrayField? key (.obj members) = some items ↔
      Json.find? key members = some (.arr items) := by
  simp only [arrayField?, Json.get?]
  cases Json.find? key members with
  | none => simp
  | some v => cases v <;> simp

theorem messageMembers_obj : messageMembers (.obj members) =
    if hasGuid members then .ok (some members)
    else match arrayField? "data" (.obj members) with
      | none => .ok (some members)
      | some (.obj first :: _) => .ok (some first)
      | some _ => .ok none := rfl

theorem Selects.eq (h : Selects members selected) :
    messageMembers (.obj members) = .ok selected := by
  rw [messageMembers_obj]
  cases h with
  | named hid => rw [if_pos (hasGuid_iff.2 hid)]
  | bare hid hw =>
    have hnone : arrayField? "data" (.obj members) = none :=
      Option.eq_none_iff_forall_ne_some.2 fun items h => hw items (arrayField?_eq_some.1 h)
    rw [if_neg (mt hasGuid_iff.1 hid), hnone]
  | first hid hw | empty hid hw =>
    rw [if_neg (mt hasGuid_iff.1 hid), arrayField?_eq_some.2 hw]
  | @unusable item _ hid hw hobj =>
    rw [if_neg (mt hasGuid_iff.1 hid), arrayField?_eq_some.2 hw]
    cases item with
    | obj inner => exact absurd rfl (hobj inner)
    | _ => rfl

theorem exists_selects (members : List (String × Json)) :
    ∃ selected, Selects members selected := by
  by_cases hid : HasId members
  · exact ⟨_, .named hid⟩
  by_cases hw : ∃ items, Wraps members items
  · obtain ⟨items, hw⟩ := hw
    cases items with
    | nil => exact ⟨_, .empty hid hw⟩
    | cons item rest =>
      cases item with
      | obj first => exact ⟨_, .first hid hw⟩
      | _ => exact ⟨_, .unusable hid hw nofun⟩
  · exact ⟨_, .bare hid (not_exists.1 hw)⟩

/-! ## Responses -/

/-- The status is one of success. -/
def Succeeds (r : Http.Response) : Prop := 200 ≤ r.status ∧ r.status < 300

/-- How the response to a lookup is read. -/
inductive Reads (guid : String) (r : Http.Response) : Except RelayError Message → Prop where
  | missing : r.status = 404 → Reads guid r (.error (.notFound guid))
  | refused : r.status ≠ 404 → ¬ Succeeds r → Reads guid r (.error (.status r.status r.text))
  | garbled : Succeeds r → Json.parseBytes r.content = none →
      Reads guid r (.error (.decode "error decoding response body"))
  | noObject {v : Json} : Succeeds r → Json.parseBytes r.content = some v →
      (∀ members, v ≠ .obj members) →
      Reads guid r (.error (.decode ("expected a JSON object, got " ++ v.kind)))
  | indexed {members message : List (String × Json)} : Succeeds r →
      Json.parseBytes r.content = some (.obj members) → Selects members (some message) →
      Reads guid r (.ok (.ofMembers message))
  | unlisted {members : List (String × Json)} : Succeeds r →
      Json.parseBytes r.content = some (.obj members) → Selects members none →
      Reads guid r (.error (.notFound guid))

theorem isSuccess_iff : r.isSuccess = true ↔ Succeeds r := by
  simp [Http.Response.isSuccess, Succeeds]

theorem Succeeds.ne_404 (h : Succeeds r) : r.status ≠ 404 := by
  have := h.2
  omega

theorem jsonBody_of_succeeds (h : Succeeds r) :
    jsonBody r = match Json.parseBytes r.content with
      | some v => .ok v
      | none => .error (.decode "error decoding response body") := by
  rw [jsonBody, isSuccess_iff.2 h]
  rfl

theorem Reads.eq (h : Reads guid r y) : message guid r = y := by
  unfold message
  cases h with
  | missing h404 => rw [if_pos h404]
  | refused h404 hs =>
    have hno : r.isSuccess = false := Bool.eq_false_iff.2 (mt isSuccess_iff.1 hs)
    rw [if_neg h404, jsonBody, hno]
    rfl
  | garbled hs hv =>
    rw [if_neg hs.ne_404, jsonBody_of_succeeds hs, hv]
    rfl
  | @noObject v hs hv hobj =>
    rw [if_neg hs.ne_404, jsonBody_of_succeeds hs, hv]
    cases v with
    | obj members => exact absurd rfl (hobj members)
    | _ => rfl
  | indexed hs hv hsel | unlisted hs hv hsel =>
    rw [if_neg hs.ne_404, jsonBody_of_succeeds hs, hv]
    simp only [Except.bind, hsel.eq]

theorem exists_reads (guid : String) (r : Http.Response) : ∃ y, Reads guid r y := by
  by_cases h404 : r.status = 404
  · exact ⟨_, .missing h404⟩
  by_cases hs : Succeeds r
  · cases hv : Json.parseBytes r.content with
    | none => exact ⟨_, .garbled hs hv⟩
    | some v =>
      cases v with
      | obj members =>
        obtain ⟨selected, hsel⟩ := exists_selects members
        cases selected with
        | none => exact ⟨_, .unlisted hs hv hsel⟩
        | some message => exact ⟨_, .indexed hs hv hsel⟩
      | _ => exact ⟨_, .noObject hs hv nofun⟩
  · exact ⟨_, .refused h404 hs⟩

theorem message_eq_iff : message guid r = y ↔ Reads guid r y := by
  constructor
  · rintro rfl
    obtain ⟨y, hy⟩ := exists_reads guid r
    rwa [hy.eq]
  · exact Reads.eq

/-! ## Responses that leave a message open -/

/-- The message is not indexed yet, or its status is not final. -/
inductive Pending (r : Http.Response) : Prop where
  | missing : r.status = 404 → Pending r
  | unlisted {members : List (String × Json)} : Succeeds r →
      Json.parseBytes r.content = some (.obj members) → Selects members none → Pending r
  | underway {members message : List (String × Json)} : Succeeds r →
      Json.parseBytes r.content = some (.obj members) → Selects members (some message) →
      (Message.ofMembers message).status.isFinal = false → Pending r

theorem decisive_message : decisive (message guid r) = false ↔ Pending r := by
  constructor
  · intro hd
    obtain ⟨y, hy⟩ := exists_reads guid r
    rw [hy.eq] at hd
    cases hy with
    | missing h404 => exact .missing h404
    | unlisted hs hv hsel => exact .unlisted hs hv hsel
    | indexed hs hv hsel => exact .underway hs hv hsel hd
    | refused | garbled | noObject => cases hd
  · intro h
    cases h with
    | missing h404 =>
      rw [(Reads.missing h404).eq]
      rfl
    | unlisted hs hv hsel =>
      rw [(Reads.unlisted hs hv hsel).eq]
      rfl
    | underway hs hv hsel hf =>
      rw [(Reads.indexed hs hv hsel).eq]
      exact hf

/-- The lookups of a message that bring these responses, each after some time. -/
def lookups (guid : String) (responses : Nat → Http.Response) (durations : Nat → Nat) (k : Nat) :
    Lookup := ⟨message guid (responses k), durations k⟩

end TokenBridge.Relay.Scan

namespace TokenBridge.Relay

/-! ## Waits -/

namespace Wait

variable {w : Wait} {index : Nat → Lookup} {k n begun answered finished : Nat} {r : WaitReport}
  {result : Option (Except RelayError Message)}

theorem step_ne_ends {answer : Except RelayError Message} (h : decisive answer = false)
    (news : Bool) (told : List Status) (next : Except RelayError Message) :
    w.step answer news told ≠ .ends next := by
  cases answer with
  | error e =>
    have hn : e.isNotFound = true := by simpa [decisive] using h
    simp [step, hn]
  | ok m =>
    have hv : m.status.verdict = .pending := by
      cases hs : m.status <;> simp_all [decisive, Status.isFinal, Status.verdict]
    intro hends
    simp only [step, hv] at hends
    split at hends <;> cases hends

/-- A wait in which no answer was decisive was cancelled, or its deadline has passed. -/
theorem Closes.of_not_decisive (h : w.Closes index n begun answered result finished)
    (hd : ∀ k < answered, decisive (index k).answer = false) :
    result = some (.error (.cancelled w.guid)) ∧ ¬ w.Undisturbed ∨
      result = some (.error (.timeout w.guid w.timeout)) ∧ w.timeout.nanos ≤ finished := by
  cases h with
  | late hlate => exact .inr ⟨rfl, hlate⟩
  | cutOff _ hcancel | awoken _ hcancel =>
    exact .inl ⟨rfl, fun hw => by cases hw.outside.symm.trans hcancel⟩
  | ended _ _ hstep => exact absurd hstep (step_ne_ends (hd n (Nat.lt_succ_self n)) _ _ _)
  | calledOff _ _ hstep =>
    refine .inl ⟨rfl, fun hw => ?_⟩
    cases (hw.stepAt (hd n (Nat.lt_succ_self n))).symm.trans hstep

theorem Closes.answered_eq (h : w.Closes index n begun answered result finished)
    (hw : w.cancelAt = none) : answered = begun := by
  cases h with
  | cutOff _ hcancel => cases hw.symm.trans hcancel
  | _ => rfl

theorem Undisturbed.goesOn (hw : w.Undisturbed) (htime : w.startOf index k < w.timeout.nanos)
    (hd : decisive (index k).answer = false) : w.GoesOn index k :=
  ⟨htime, hw.stepAt hd, by simp [hw.outside]⟩

end Wait

/-- A response to a lookup is read by its status and its body. A wait goes on with those that leave
the message open until its deadline, unless it is cancelled; the first other response that is asked
for in time ends it, with the result that this response has. -/
theorem Tracker.wait_over_responses (guid : String) :
    (∀ r y, Scan.message guid r = y ↔ Scan.Reads guid r y) ∧
    ∀ (t : Tracker) (reach : Nat) (o : WaitOptions) (responses : Nat → Http.Response)
        (durations : Nat → Nat),
      let index := Scan.lookups guid responses durations
      let w := t.plan guid o
      let report := t.wait reach index guid o
      (∀ k < report.answered, ¬ Scan.Pending (responses k) → report.answered = k + 1 ∧
        report.result = some (resultOf guid (Scan.message guid (responses k)))) ∧
      ((∀ k < report.answered, Scan.Pending (responses k)) →
        report.result = some (.error (.cancelled guid)) ∧ ¬ o.Undisturbed ∨
        report.result = some (.error (.timeout guid w.timeout)) ∧
          w.timeout.nanos ≤ report.finished ∨
        report.result = none ∧ reach < w.timeout.nanos) ∧
      (w.timeout.nanos ≤ reach → o.Undisturbed → ∀ k, (∀ j < k, Scan.Pending (responses j)) →
        w.startOf index k < w.timeout.nanos → k < report.answered) := by
  refine ⟨fun r y => Scan.message_eq_iff, fun t reach o responses durations => ?_⟩
  intro index w report
  have hopen : ∀ k, decisive (index k).answer = false ↔ Scan.Pending (responses k) :=
    fun k => Scan.decisive_message
  rcases t.wait_cases reach index guid o with ⟨hr, hreport⟩ | ⟨hr, hb, hreport⟩ | ⟨hr, hb, hloop⟩
  · rw [show report = _ from hreport]
    exact ⟨nofun, fun _ => .inr (.inr ⟨rfl, hr⟩), fun h => absurd hr (Nat.not_lt_of_le h)⟩
  · have hdisturbed : ¬ o.Undisturbed := fun hu => hu.ne_before hb
    rw [show report = _ from hreport]
    exact ⟨nofun, fun _ => .inl ⟨rfl, hdisturbed⟩, fun _ hu => absurd hu hdisturbed⟩
  replace hloop : report = w.loop index 0 {} [] 0 := hloop
  obtain ⟨n, hn⟩ := t.course_wait index guid o hr hb
  refine ⟨fun k hk hend => ?_, fun hpending => ?_, fun _ hu k hpending htime => ?_⟩
  · have hd : decisive (index k).answer = true := by
      rw [← Bool.not_eq_false, hopen]
      exact hend
    have hlast : report.answered = k + 1 := by
      rw [hloop] at hk ⊢
      exact w.loop_answered_of_decisive index 0 {} [] 0 k hk (by rwa [Nat.zero_add])
    exact ⟨hlast, ((hlast ▸ hn.closed).of_decisive (fun _ => hn.goesOn_of_lt) hd).1⟩
  · refine (hn.closed.of_not_decisive fun k hk => (hopen k).2 (hpending k hk)).imp ?_ .inl
    exact fun ⟨hresult, hdisturbed⟩ => ⟨hresult, fun hu => hdisturbed (hu.plan t guid)⟩
  · have hw := hu.plan t guid
    have hgo : ∀ j < k, w.GoesOn index j := fun j hj =>
      hw.goesOn (Nat.lt_of_le_of_lt (w.startOf_mono index (Nat.le_of_lt hj)) htime)
        ((hopen j).2 (hpending j hj))
    rw [hn.closed.answered_eq hw.outside]
    exact hn.lt_length_starts hgo htime

end TokenBridge.Relay
