import TokenBridge.Program

/-!
# Programs that ask the same

`Matched R p q`: whatever is answered, the programs `p` and `q` ask the same, and
end with results that are related by `R`. Programs in a row match where their
parts do (`Matched.bind`). Against one handler, matched programs have the same
events and leave the same state at the same time (`Program.Matched.run`,
`Flow.Matched.run`).
-/

namespace TokenBridge

variable {I J : Interface} {α β α' β' σ : Type} {R : α → β → Prop} {S : α' → β' → Prop}

/-- Two runs that differ in their results at most, which are related. -/
structure Run.Matched (R : α → β → Prop) (a : Run I σ α) (b : Run I σ β) : Prop where
  events : b.events = a.events
  state : b.state = a.state
  finished : b.finished = a.finished
  result : R a.result b.result

theorem Run.Matched.after {a : Run I σ α} {b : Run I σ β} (h : a.Matched R b)
    (before : List (Event I)) : (a.after before).Matched R (b.after before) where
  events := congrArg (before ++ ·) h.events
  state := h.state
  finished := h.finished
  result := h.result

namespace Program

inductive Matched (R : α → β → Prop) : Program I α → Program I β → Prop where
  | done {a : α} {b : β} : R a b → Matched R (.done a) (.done b)
  | ask {r : I.Request} {next : I.Answer r → Program I α} {next' : I.Answer r → Program I β} :
      (∀ x, Matched R (next x) (next' x)) → Matched R (.ask r next) (.ask r next')

theorem Matched.refl {R : α → α → Prop} (hR : ∀ a, R a a) (p : Program I α) : Matched R p p := by
  induction p with
  | done a => exact .done (hR a)
  | ask r next ih => exact .ask ih

theorem Matched.bind {p : Program I α} {q : Program I β} {f : α → Program I α'}
    {g : β → Program I β'} (hp : Matched R p q) (hf : ∀ a b, R a b → Matched S (f a) (g b)) :
    Matched S (p.bind f) (q.bind g) := by
  induction hp with
  | done hr => exact hf _ _ hr
  | ask _ ih => exact .ask ih

theorem Matched.relay {f : I.Request → J.Request}
    {g : (r : I.Request) → J.Answer (f r) → I.Answer r} {p : Program I α} {q : Program I β}
    (hp : Matched R p q) : Matched R (p.relay f g) (q.relay f g) := by
  induction hp with
  | done hr => exact .done hr
  | ask _ ih => exact .ask fun x => ih (g _ x)

theorem Matched.run {p : Program I α} {q : Program I β} (hp : Matched R p q) (h : Handler I σ)
    (now : Nat) (s : σ) : (p.run h now s).Matched R (q.run h now s) := by
  induction hp generalizing now s with
  | done hr => exact ⟨rfl, rfl, rfl, hr⟩
  | ask _ ih => exact (ih _ _ _).after _

end Program

namespace Flow

inductive Matched (R : α → β → Prop) : Flow I α → Flow I β → Prop where
  | done {a : α} {b : β} : R a b → Matched R (.done a) (.done b)
  | ask {r : I.Request} {next : I.Answer r → Flow I α} {next' : I.Answer r → Flow I β} :
      (∀ x, Matched R (next x) (next' x)) → Matched R (.ask r next) (.ask r next')
  | gather {γ : Type} {tasks : List (Program I γ)} {next : List γ → Flow I α}
      {next' : List γ → Flow I β} : (∀ xs, Matched R (next xs) (next' xs)) →
      Matched R (.gather tasks next) (.gather tasks next')

theorem Matched.refl {R : α → α → Prop} (hR : ∀ a, R a a) (p : Flow I α) : Matched R p p := by
  induction p with
  | done a => exact .done (hR a)
  | ask r next ih => exact .ask ih
  | gather tasks next ih => exact .gather ih

theorem Matched.bind {p : Flow I α} {q : Flow I β} {f : α → Flow I α'} {g : β → Flow I β'}
    (hp : Matched R p q) (hf : ∀ a b, R a b → Matched S (f a) (g b)) :
    Matched S (p.bind f) (q.bind g) := by
  induction hp with
  | done hr => exact hf _ _ hr
  | ask _ ih => exact .ask ih
  | gather _ ih => exact .gather ih

theorem Matched.ofProgram {p : Program I α} {q : Program I β} (hp : p.Matched R q) :
    Matched R (ofProgram p) (ofProgram q) := by
  induction hp with
  | done hr => exact .done hr
  | ask _ ih => exact .ask ih

theorem Matched.run {p : Flow I α} {q : Flow I β} (hp : Matched R p q) (h : Handler I σ)
    (order : Arrangement) (now : Nat) (s : σ) :
    (p.run h order now s).Matched R (q.run h order now s) := by
  induction hp generalizing now s with
  | done hr => exact ⟨rfl, rfl, rfl, hr⟩
  | ask _ ih => exact (ih _ _ _).after _
  | gather _ ih => exact (ih _ _ _).after _

end Flow

end TokenBridge
