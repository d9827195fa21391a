import TokenBridge.Proofs.Program

/-!
# Programs with fixed answers

Where every request has one answer, a program comes to one result, which is its
`value`. A flow need not, since it goes on with the results of spawned programs
in the order in which these finish. `Flow.Settled` says that the order makes no
difference to a flow. Programs one after the other are settled, and so are
settled flows (`Flow.Settled.bind`), which leaves the places where programs are
spawned.

Where two logs give the same answers to what was asked in both (`Concur`), a
program ends alike with either (`Program.Ends.unique`).
-/

namespace TokenBridge

variable {I : Interface} {α β σ : Type} {answers : (r : I.Request) → I.Answer r}
  {log : List (Event I)}

/-- Every request in the log was given its one answer. -/
def AnsweredBy (answers : (r : I.Request) → I.Answer r) (log : List (Event I)) : Prop :=
  ∀ e ∈ log, e.answer = answers e.request

theorem answeredBy_append {l l' : List (Event I)} :
    AnsweredBy answers (l ++ l') ↔ AnsweredBy answers l ∧ AnsweredBy answers l' :=
  List.forall_mem_append

/-! ## Programs -/

namespace Program

/-- The result of a program whose requests are given these answers. -/
def value (answers : (r : I.Request) → I.Answer r) : Program I α → α
  | done a => a
  | ask r next => (next (answers r)).value answers

theorem Ends.eq_value {p : Program I α} {a : α} (h : Ends p log a) (ha : AnsweredBy answers log) :
    a = p.value answers := by
  induction h with
  | done => rfl
  | @ask r _ _ _ x _ _ _ ih =>
    obtain ⟨hx, hlog⟩ := List.forall_mem_cons.1 ha
    obtain rfl : x = answers r := hx
    exact ih hlog

theorem ends_value (answers : (r : I.Request) → I.Answer r) (p : Program I α) :
    ∃ log, Ends p log (p.value answers) := by
  induction p with
  | done a => exact ⟨[], .done a⟩
  | ask r next ih =>
    obtain ⟨log, h⟩ := ih (answers r)
    exact ⟨_, .ask (answers r) 0 0 h⟩

theorem AllEnd.eq_map_value {ps : List (Program I α)} {xs : List α} (h : AllEnd ps log xs)
    (ha : AnsweredBy answers log) : xs = ps.map (value answers) := by
  induction h with
  | nil => rfl
  | cons hp _ ih =>
    obtain ⟨hl, hl'⟩ := answeredBy_append.1 ha
    rw [List.map_cons, ← hp.eq_value hl, ← ih hl']

end Program

/-! ## Two logs -/

/-- What was asked, and what was answered. -/
def Event.said (e : Event I) : (r : I.Request) × I.Answer r := ⟨e.request, e.answer⟩

/-- What was asked in both logs was given the same answer in both. -/
def Concur (log log' : List (Event I)) : Prop :=
  ∀ e ∈ log, ∀ e' ∈ log', e.request = e'.request → e.said = e'.said

theorem AnsweredBy.said_eq {e : Event I} (h : AnsweredBy answers log) (he : e ∈ log) :
    e.said = ⟨e.request, answers e.request⟩ := by
  rw [Event.said, h e he]

theorem Program.Ends.unique {p : Program I α} {log' : List (Event I)} {a a' : α}
    (h : Ends p log a) (h' : Ends p log' a') (hc : Concur log log') : a = a' := by
  induction h generalizing log' with
  | done => exact (ends_done.1 h').2.symm
  | ask x _ _ _ ih =>
    obtain ⟨x', _, _, l, rfl, h₁⟩ := ends_ask.1 h'
    have hsaid := hc _ List.mem_cons_self _ List.mem_cons_self rfl
    obtain rfl : x = x' := eq_of_heq (Sigma.mk.inj hsaid).2
    exact ih h₁ fun e he e' he' => hc e (List.mem_cons_of_mem _ he) e' (List.mem_cons_of_mem _ he')

/-! ## Flows -/

namespace Flow

/-- Given these answers the flow comes to one result, in whichever order spawned programs finish. -/
def Settled (answers : (r : I.Request) → I.Answer r) (p : Flow I α) : Prop :=
  ∀ ⦃log log' : List (Event I)⦄ ⦃a a' : α⦄, AnsweredBy answers log → AnsweredBy answers log' →
    Ends p log a → Ends p log' a' → a = a'

theorem settled_done (a : α) : (done a : Flow I α).Settled answers := by
  intro log log' b b' _ _ h h'
  rw [(ends_done.1 h).2, (ends_done.1 h').2]

theorem settled_ofProgram (p : Program I α) : (ofProgram p).Settled answers := by
  intro log log' a a' ha ha' h h'
  rw [(ends_ofProgram h).eq_value ha, (ends_ofProgram h').eq_value ha']

theorem Settled.bind {p : Flow I α} {f : α → Flow I β} (hp : p.Settled answers)
    (hf : ∀ a, (f a).Settled answers) : (p.bind f).Settled answers := by
  intro log log' b b' ha ha' h h'
  obtain ⟨x, l₁, l₂, rfl, hx, hb⟩ := ends_bind h
  obtain ⟨x', l₁', l₂', rfl, hx', hb'⟩ := ends_bind h'
  obtain ⟨ha₁, ha₂⟩ := answeredBy_append.1 ha
  obtain ⟨ha₁', ha₂'⟩ := answeredBy_append.1 ha'
  obtain rfl := hp ha₁ ha₁' hx hx'
  exact hf x ha₂ ha₂' hb hb'

end Flow

/-! ## Handlers -/

/-- The handler gives the same answer to a request at any time and in any state. -/
def Handler.Gives (h : Handler I σ) (answers : (r : I.Request) → I.Answer r) : Prop :=
  ∀ now r s, (h.reply now r s).answer = answers r

/-- The handler that gives these answers at once. -/
def Handler.ofAnswers (answers : (r : I.Request) → I.Answer r) : Handler I Unit :=
  ⟨fun _ r _ => ⟨answers r, 0, ()⟩⟩

theorem Handler.gives_ofAnswers (answers : (r : I.Request) → I.Answer r) :
    (Handler.ofAnswers answers).Gives answers := fun _ _ _ => rfl

theorem Program.answeredBy_run {h : Handler I σ} (hg : h.Gives answers) (p : Program I α)
    (now : Nat) (s : σ) : AnsweredBy answers (p.run h now s).events := by
  induction p generalizing now s with
  | done a => exact fun _ he => absurd he List.not_mem_nil
  | ask r next ih => exact List.forall_mem_cons.2 ⟨hg now r s, ih _ _ _⟩

theorem Program.answeredBy_runAll {h : Handler I σ} (hg : h.Gives answers)
    (ps : List (Program I α)) (now : Nat) (s : σ) :
    AnsweredBy answers (runAll h ps now s).events := by
  induction ps generalizing s with
  | nil => exact fun _ he => absurd he List.not_mem_nil
  | cons p ps ih => exact answeredBy_append.2 ⟨p.answeredBy_run hg now s, ih _⟩

theorem Flow.answeredBy_run {h : Handler I σ} (hg : h.Gives answers) (order : Arrangement)
    (p : Flow I α) (now : Nat) (s : σ) : AnsweredBy answers (p.run h order now s).events := by
  induction p generalizing now s with
  | done a => exact fun _ he => absurd he List.not_mem_nil
  | ask r next ih => exact List.forall_mem_cons.2 ⟨hg now r s, ih _ _ _⟩
  | gather tasks next ih =>
    exact answeredBy_append.2 ⟨Program.answeredBy_runAll hg _ now s, ih _ _ _⟩

theorem Flow.Settled.run_result {τ : Type} {p : Flow I α} (hp : p.Settled answers)
    {h : Handler I σ} {h' : Handler I τ} (hg : h.Gives answers) (hg' : h'.Gives answers)
    (order order' : Arrangement) (now now' : Nat) (s : σ) (t : τ) :
    (p.run h order now s).result = (p.run h' order' now' t).result :=
  hp (p.answeredBy_run hg order now s) (p.answeredBy_run hg' order' now' t)
    (p.ends_run h order now s) (p.ends_run h' order' now' t)

end TokenBridge
