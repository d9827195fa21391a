import TokenBridge.Proofs.Relay.Message
import TokenBridge.Proofs.Relay.Response

/-!
# Whose message an answer is

`Names` says which id an object gives for its message, and `Scan.Holds` which
object a response holds for a lookup. The message that a lookup returns has the
id that this object names. The id that was asked for does not take part in it,
but for the texts of errors: a wait for another message over the same responses
makes the same report under the other id (`Wait.loop_about`). So what a wait
reports is of the message asked for just as far as the index answers with it
(`Tracker.wait_trusts_responses`).
-/

namespace TokenBridge

/-! ## Ids in failures -/

/-- The failure with another id where it names a message. -/
def RelayError.about (guid : String) : RelayError → RelayError
  | notFound _ => notFound guid
  | messageFailed _ => messageFailed guid
  | messageBlocked _ => messageBlocked guid
  | timeout _ after => timeout guid after
  | cancelled _ => cancelled guid
  | e => e

namespace Relay

/-- The answer with another id in its failure. -/
def answerAbout (guid : String) (answer : Except RelayError Message) : Except RelayError Message :=
  answer.mapError (·.about guid)

@[simp] theorem answerAbout_error (guid : String) (e : RelayError) :
    answerAbout guid (.error e) = .error (e.about guid) := rfl

@[simp] theorem answerAbout_ok (guid : String) (m : Message) :
    answerAbout guid (.ok m) = .ok m := rfl

/-- The report with another id in its failure. -/
def WaitReport.about (guid : String) (r : WaitReport) : WaitReport :=
  { r with result := r.result.map (answerAbout guid) }

/-! ## The id that an object names -/

/-- The id of the message in an object: a string under `guid`, else one under `messageGuid`, else
the empty one. -/
inductive Message.Names (members : List (String × Json)) : String → Prop where
  | guid {s : String} : Json.find? "guid" members = some (.str s) → Names members s
  | messageGuid {s : String} : (∀ s, Json.find? "guid" members ≠ some (.str s)) →
      Json.find? "messageGuid" members = some (.str s) → Names members s
  | none : (∀ s, Json.find? "guid" members ≠ some (.str s)) →
      (∀ s, Json.find? "messageGuid" members ≠ some (.str s)) → Names members ""

namespace Message

variable {members : List (String × Json)} {key s : String}

theorem bind_string?_eq_some :
    (Json.find? key members).bind Json.string? = some s ↔
      Json.find? key members = some (.str s) := by
  simp [Option.bind_eq_some_iff, Json.string?_eq_some]

theorem bind_string?_eq_none (h : ∀ s, Json.find? key members ≠ some (.str s)) :
    (Json.find? key members).bind Json.string? = none :=
  Option.eq_none_iff_forall_ne_some.2 fun s hs => h s (bind_string?_eq_some.1 hs)

theorem guid_ofMembers :
    (ofMembers members).guid = (stringField? members ["guid", "messageGuid"]).getD "" := rfl

theorem Names.eq (h : Names members s) : (ofMembers members).guid = s := by
  rw [guid_ofMembers]
  cases h with
  | guid hs => simp [stringField?, bind_string?_eq_some.2 hs]
  | messageGuid hno hs => simp [stringField?, bind_string?_eq_none hno, bind_string?_eq_some.2 hs]
  | none hno hno' => simp [stringField?, bind_string?_eq_none hno, bind_string?_eq_none hno']

theorem exists_names (members : List (String × Json)) : ∃ s, Names members s := by
  by_cases hg : ∃ s, Json.find? "guid" members = some (.str s)
  · exact hg.imp fun _ => .guid
  by_cases hm : ∃ s, Json.find? "messageGuid" members = some (.str s)
  · exact hm.imp fun _ => .messageGuid (not_exists.1 hg)
  · exact ⟨"", .none (not_exists.1 hg) (not_exists.1 hm)⟩

theorem guid_ofMembers_eq_iff : (ofMembers members).guid = s ↔ Names members s := by
  constructor
  · rintro rfl
    obtain ⟨s, hs⟩ := exists_names members
    rwa [hs.eq]
  · exact Names.eq

end Message

/-! ## Lookups -/

namespace Scan

variable {guid : String} {r : Http.Response} {members : List (String × Json)} {m : Message}

/-- The response holds this object for a lookup. -/
inductive Holds (r : Http.Response) (members : List (String × Json)) : Prop where
  | intro {body : List (String × Json)} : Succeeds r →
      Json.parseBytes r.content = some (.obj body) → Selects body (some members) → Holds r members

theorem message_eq_ok_iff :
    message guid r = .ok m ↔ ∃ members, Holds r members ∧ m = .ofMembers members := by
  rw [message_eq_iff]
  constructor
  · rintro (_ | _ | _ | _ | ⟨hs, hbody, hsel⟩ | _)
    exact ⟨_, ⟨hs, hbody, hsel⟩, rfl⟩
  · rintro ⟨members, ⟨hs, hbody, hsel⟩, rfl⟩
    exact .indexed hs hbody hsel

theorem guid_eq_iff (h : message guid r = .ok m) {s : String} :
    m.guid = s ↔ ∃ members, Holds r members ∧ Message.Names members s := by
  constructor
  · intro hs
    obtain ⟨members, hr, rfl⟩ := message_eq_ok_iff.1 h
    exact ⟨members, hr, Message.guid_ofMembers_eq_iff.1 hs⟩
  · rintro ⟨members, hr, hs⟩
    cases h.symm.trans (message_eq_ok_iff.2 ⟨members, hr, rfl⟩)
    exact hs.eq

theorem message_about (guid guid' : String) (r : Http.Response) :
    message guid' r = answerAbout guid' (message guid r) := by
  obtain ⟨y, hy⟩ := exists_reads guid r
  rw [hy.eq]
  cases hy with
  | missing h404 => exact (Reads.missing h404).eq
  | refused h404 hs => exact (Reads.refused h404 hs).eq
  | garbled hs hv => exact (Reads.garbled hs hv).eq
  | noObject hs hv hobj => exact (Reads.noObject hs hv hobj).eq
  | indexed hs hv hsel => exact (Reads.indexed hs hv hsel).eq
  | unlisted hs hv hsel => exact (Reads.unlisted hs hv hsel).eq

end Scan

/-! ## Waits -/

namespace Wait

variable {w : Wait} {index : Nat → Lookup} {seen : Observer} {told : List Status} {news : Bool}
  {answer : Except RelayError Message} {n begun answered finished : Nat} {m : Message}

def about (guid : String) (w : Wait) : Wait := { w with guid }

@[simp] theorem about_timeout (guid : String) (w : Wait) : (w.about guid).timeout = w.timeout := rfl

@[simp] theorem about_guid (guid : String) (w : Wait) : (w.about guid).guid = guid := rfl

@[simp] theorem about_wake (guid : String) (w : Wait) (now : Nat) :
    (w.about guid).wake now = w.wake now := rfl

@[simp] theorem about_cancelledBefore? (guid : String) (w : Wait) (t : Nat) :
    (w.about guid).cancelledBefore? t = w.cancelledBefore? t := rfl

def Step.about (guid : String) : Step → Step
  | ends result => ends (answerAbout guid result)
  | cancels => cancels
  | pauses => pauses

@[simp] theorem isNotFound_about (guid : String) (e : RelayError) :
    (e.about guid).isNotFound = e.isNotFound := by
  cases e <;> rfl

theorem step_about {next : Step} (guid : String) (h : w.step answer news told = next) :
    (w.about guid).step (answerAbout guid answer) news told = next.about guid := by
  rw [← h]
  cases answer with
  | error e =>
    simp only [answerAbout_error, step, isNotFound_about]
    split <;> rfl
  | ok m =>
    simp only [answerAbout_ok, step, about]
    cases m.status.verdict with
    | pending => by_cases hc : (news && w.cancelsAfter told) = true <;> simp [hc, Step.about]
    | _ => rfl

@[simp] theorem isNews_about (guid : String) :
    isNews seen (answerAbout guid answer) = isNews seen answer := by
  cases answer <;> rfl

@[simp] theorem observed_about (guid : String) :
    observed seen (answerAbout guid answer) = observed seen answer := by
  cases answer <;> rfl

@[simp] theorem changed_about (guid : String) :
    changed told seen (answerAbout guid answer) = changed told seen answer := by
  cases answer <;> rfl

/-- A wait for another message over the same lookups makes the same report about that message. -/
theorem loop_about (guid : String) (w : Wait) (index : Nat → Lookup) (k : Nat) (seen : Observer)
    (told : List Status) (start : Nat) :
    (w.about guid).loop (fun k => ⟨answerAbout guid (index k).answer, (index k).duration⟩) k seen
      told start = (w.loop index k seen told start).about guid := by
  fun_induction w.loop index k seen told start with
  | case1 k seen told start hlate =>
    rw [loop]
    exact dif_pos hlate
  | case2 k seen told start hlate now c hc =>
    rw [loop]
    simp [hlate, now, hc, WaitReport.about, RelayError.about]
  | case3 k seen told start hlate answer now hc told' result hstep =>
    have habout := step_about guid hstep
    rw [loop]
    simp [hlate, answer, now, hc, told', habout, Step.about, WaitReport.about]
  | case4 k seen told start hlate answer now hc told' hstep =>
    have habout := step_about guid hstep
    rw [loop]
    simp [hlate, answer, now, hc, told', habout, Step.about, WaitReport.about, RelayError.about]
  | case5 k seen told start hlate answer now hc told' hstep c hc' =>
    have habout := step_about guid hstep
    rw [loop]
    simp [hlate, answer, now, hc, told', habout, Step.about, hc', WaitReport.about,
      RelayError.about]
  | case6 k seen told start hlate answer now hc told' hstep hc' rest ih =>
    have habout := step_about guid hstep
    simp only [answer, now, told'] at ih
    rw [loop]
    simp [hlate, answer, now, hc, told', habout, Step.about, hc', ih, rest, WaitReport.about]

theorem step_eq_ends_ok (h : w.step answer news told = .ends (.ok m)) :
    answer = .ok m ∧ m.status = .delivered := by
  have hd : decisive answer = true := by
    rw [← Bool.not_eq_false]
    exact fun hd => step_ne_ends hd _ _ _ h
  rw [step_of_decisive hd] at h
  exact resultOf_eq_ok (Step.ends.inj h) hd

theorem Closes.of_ok (h : w.Closes index n begun answered (some (.ok m)) finished) :
    answered = n + 1 ∧ (index n).answer = .ok m ∧ m.status = .delivered := by
  cases h with
  | ended _ _ hstep => exact ⟨rfl, step_eq_ends_ok hstep⟩

end Wait

theorem mem_heard {index : Nat → Lookup} {n : Nat} {s : Status} :
    s ∈ heard index n ↔ ∃ k < n, ∃ m, (index k).answer = .ok m ∧ m.status = s := by
  simp only [heard, List.mem_filterMap, List.mem_range]
  refine exists_congr fun k => and_congr_right fun _ => ?_
  cases (index k).answer <;> simp [status?]

theorem Tracker.plan_about (t : Tracker) (guid guid' : String) (o : WaitOptions) :
    t.plan guid' o = (t.plan guid o).about guid' := rfl

theorem Tracker.wait_about (t : Tracker) (reach : Nat) (responses : Nat → Http.Response)
    (durations : Nat → Nat) (guid guid' : String) (o : WaitOptions) :
    t.wait reach (Scan.lookups guid' responses durations) guid' o =
      (t.wait reach (Scan.lookups guid responses durations) guid o).about guid' := by
  have hindex : Scan.lookups guid' responses durations = fun k =>
      ⟨answerAbout guid' (Scan.lookups guid responses durations k).answer,
        (Scan.lookups guid responses durations k).duration⟩ := by
    funext k
    exact congrArg (Lookup.mk · (durations k)) (Scan.message_about guid guid' (responses k))
  rcases Nat.lt_or_ge reach (settle t.timeout o.timeout).nanos with hr | hr
  · rw [t.wait_out_of_reach _ _ _ hr, t.wait_out_of_reach _ _ _ hr]
    rfl
  by_cases hb : o.cancellation = some .before
  · rw [t.wait_before _ _ _ hr hb, t.wait_before _ _ _ hr hb]
    rfl
  · rw [t.wait_eq_loop _ _ _ hr hb, t.wait_eq_loop _ _ _ hr hb, hindex, t.plan_about guid,
      Wait.loop_about]

/-- A lookup returns the message of the object that the response holds for it, under the id that
this object names, and this is the id asked for only if the response names it. A wait reports the
message of the last response and tells the statuses of those before it, whichever ids they have;
they are of the message asked for where the responses name no other. A wait for another message over
the same responses makes the same report, but for the id in its failure. -/
theorem Tracker.wait_trusts_responses (guid : String) :
    (∀ r m, Scan.message guid r = .ok m ↔
      ∃ members, Scan.Holds r members ∧ m = .ofMembers members) ∧
    (∀ r m, Scan.message guid r = .ok m → ∀ s,
      (m.guid = s ↔ ∃ members, Scan.Holds r members ∧ Message.Names members s)) ∧
    (∀ guid' r, Scan.message guid' r = answerAbout guid' (Scan.message guid r)) ∧
    ∀ (t : Tracker) (reach : Nat) (o : WaitOptions) (responses : Nat → Http.Response)
        (durations : Nat → Nat),
      let report := t.wait reach (Scan.lookups guid responses durations) guid o
      (∀ m, report.result = some (.ok m) → m.status = .delivered ∧
        ∃ k, report.answered = k + 1 ∧ Scan.message guid (responses k) = .ok m) ∧
      (∀ s ∈ report.changes, ∃ k < report.answered, ∃ m,
        Scan.message guid (responses k) = .ok m ∧ m.status = s) ∧
      ((∀ k < report.answered, ∀ members, Scan.Holds (responses k) members →
        Message.Names members guid) → ∀ m, report.result = some (.ok m) → m.guid = guid) ∧
      ∀ guid',
        t.wait reach (Scan.lookups guid' responses durations) guid' o = report.about guid' := by
  refine ⟨fun _ _ => Scan.message_eq_ok_iff, fun _ _ h _ => Scan.guid_eq_iff h,
    fun guid' r => Scan.message_about guid guid' r, fun t reach o responses durations => ?_⟩
  intro report
  have hdelivered : ∀ m, report.result = some (.ok m) → m.status = .delivered ∧
      ∃ k, report.answered = k + 1 ∧ Scan.message guid (responses k) = .ok m := by
    intro m hm
    rcases t.idle_or_course reach (Scan.lookups guid responses durations) guid o with
      ⟨result, hidle, hresult⟩ | ⟨-, -, n, hn⟩
    · rw [show report = _ from hidle] at hm
      exact absurd hm (hresult m)
    · obtain ⟨hanswered, hanswer, hstatus⟩ := Wait.Closes.of_ok (hm ▸ hn.closed)
      exact ⟨hstatus, n, hanswered, hanswer⟩
  refine ⟨hdelivered, fun s hs => ?_, fun hnames m hm => ?_,
    fun guid' => t.wait_about reach responses durations guid guid' o⟩
  · rw [show report.changes = _ from t.changes_wait reach _ guid o] at hs
    exact mem_heard.1 ((List.destutter_sublist _ _).subset hs)
  · obtain ⟨-, k, hk, hanswer⟩ := hdelivered m hm
    obtain ⟨members, hheld, rfl⟩ := Scan.message_eq_ok_iff.1 hanswer
    exact (hnames k (by omega) members hheld).eq

/-- The first item of an array is another message; that it is delivered is reported of the message
asked for, which is in flight and comes behind it. -/
theorem Tracker.another_message_delivered :
    let r : Http.Response :=
      { status := 200
        body := Bytes.ofText
          ("\x7b\"data\": [\x7b\"guid\": \"0x02\", \"status\": \"DELIVERED\"\x7d, " ++
            "\x7b\"guid\": \"0x01\", \"status\": \"INFLIGHT\"\x7d]\x7d") }
    let m : Message := .ofMembers [("guid", .str "0x02"), ("status", .str "DELIVERED")]
    let report := ({} : Tracker).wait Number.Span.clockReach
      (Scan.lookups "0x01" (fun _ => r) (fun _ => 0)) "0x01" {}
    Scan.message "0x01" r = .ok m ∧ m.guid ≠ "0x01" ∧ report.result = some (.ok m) ∧
      report.changes = [.delivered] := by
  intro r m report
  have hmessage : Scan.message "0x01" r = .ok m := by decide +kernel
  have hreport : report = ⟨some (.ok m), 0, [0], 1, [.delivered]⟩ := by
    change ({} : Tracker).wait _ _ _ _ = _
    rw [wait_eq_loop {} _ _ _ (by decide) (by decide), Wait.loop]
    simp only [Scan.lookups, hmessage]
    rfl
  rw [hreport]
  exact ⟨hmessage, by decide +kernel, rfl, rfl⟩

end Relay

end TokenBridge
