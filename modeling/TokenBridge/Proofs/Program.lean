import TokenBridge.Program

/-!
# Endings of programs

`Ends p log a`: answered as `log` says, the program `p` ends with `a`. The
events of a run are such a log (`Program.ends_run`, `Flow.ends_run`), so what
holds of every ending holds of every run, whoever answers. A sequence of two
programs ends with a log that splits (`ends_bind`); the logs of programs
spawned at once follow each other in an order of which nothing is known.
-/

namespace TokenBridge

variable {I J : Interface} {α β ε : Type}

theorem exists_ok_of_toBool {y : Except ε α} (h : y.toBool = true) : ∃ a, y = .ok a := by
  cases y with
  | error e => cases h
  | ok a => exact ⟨a, rfl⟩

namespace Program

/-- Answered as in the log, the program ends with the result. -/
inductive Ends : Program I α → List (Event I) → α → Prop where
  | done (a : α) : Ends (.done a) [] a
  | ask {r : I.Request} {next : I.Answer r → Program I α} {log : List (Event I)} {a : α}
      (x : I.Answer r) (asked answered : Nat) : Ends (next x) log a →
      Ends (.ask r next) (⟨r, x, asked, answered⟩ :: log) a

@[simp] theorem ends_done {a b : α} {log : List (Event I)} :
    Ends (.done a) log b ↔ log = [] ∧ b = a := by
  constructor
  · intro h; cases h; exact ⟨rfl, rfl⟩
  · rintro ⟨rfl, rfl⟩; exact .done _

@[simp] theorem ends_pure {a b : α} {log : List (Event I)} :
    Ends (pure a) log b ↔ log = [] ∧ b = a := ends_done

theorem ends_ask {r : I.Request} {next : I.Answer r → Program I α} {log : List (Event I)} {a : α} :
    Ends (.ask r next) log a ↔
      ∃ x asked answered l, log = ⟨r, x, asked, answered⟩ :: l ∧ Ends (next x) l a := by
  constructor
  · intro h
    cases h with
    | ask x asked answered h => exact ⟨x, asked, answered, _, rfl, h⟩
  · rintro ⟨x, asked, answered, l, rfl, h⟩
    exact .ask x asked answered h

theorem Ends.bind {p : Program I α} {f : α → Program I β} {l l' : List (Event I)} {a : α} {b : β}
    (hp : Ends p l a) (hf : Ends (f a) l' b) : Ends (p.bind f) (l ++ l') b := by
  induction hp with
  | done => exact hf
  | ask x asked answered _ ih => exact .ask x asked answered (ih hf)

/-- The log of a sequence of two programs is that of the one and then that of the other. -/
theorem ends_bind {p : Program I α} {f : α → Program I β} {log : List (Event I)} {b : β} :
    Ends (p.bind f) log b ↔ ∃ a l l', log = l ++ l' ∧ Ends p l a ∧ Ends (f a) l' b := by
  constructor
  · intro h
    induction p generalizing log with
    | done a => exact ⟨a, [], log, rfl, .done a, h⟩
    | ask r next ih =>
      obtain ⟨x, asked, answered, l, rfl, hl⟩ := ends_ask.1 h
      obtain ⟨a, l₁, l₂, rfl, h₁, h₂⟩ := ih x hl
      exact ⟨a, _ :: l₁, l₂, rfl, .ask x asked answered h₁, h₂⟩
  · rintro ⟨a, l, l', rfl, hp, hf⟩
    exact hp.bind hf

theorem bind_done (p : Program I α) : p.bind .done = p := by
  induction p with
  | done a => rfl
  | ask r next ih =>
    rw [bind]
    exact congrArg _ (funext ih)

theorem bind_assoc {γ : Type} (p : Program I α) (f : α → Program I β) (g : β → Program I γ) :
    (p.bind f).bind g = p.bind fun a => (f a).bind g := by
  induction p with
  | done a => rfl
  | ask r next ih =>
    rw [bind, bind, bind]
    exact congrArg _ (funext ih)

instance : LawfulMonad (Program I) :=
  LawfulMonad.mk' _ bind_done (fun _ _ => rfl) bind_assoc

theorem ends_run {σ : Type} (h : Handler I σ) (p : Program I α) (now : Nat) (s : σ) :
    Ends p (p.run h now s).events (p.run h now s).result := by
  induction p generalizing now s with
  | done a => exact .done a
  | ask r next ih => exact .ask _ _ _ (ih _ _ _)

/-- Whatever it is answered, the program asks only what is allowed. -/
def AsksOnly (allowed : I.Request → Prop) : Program I α → Prop
  | done _ => True
  | ask r next => allowed r ∧ ∀ x, (next x).AsksOnly allowed

theorem AsksOnly.bind {allowed : I.Request → Prop} {p : Program I α} {f : α → Program I β}
    (hp : p.AsksOnly allowed) (hf : ∀ a, (f a).AsksOnly allowed) :
    (p.bind f).AsksOnly allowed := by
  induction p with
  | done a => exact hf a
  | ask r next ih => exact ⟨hp.1, fun x => ih x (hp.2 x)⟩

theorem Ends.allowed {allowed : I.Request → Prop} {p : Program I α} {log : List (Event I)} {a : α}
    (h : Ends p log a) (hp : p.AsksOnly allowed) : ∀ e ∈ log, allowed e.request := by
  induction h with
  | done => exact fun _ he => absurd he List.not_mem_nil
  | ask x _ _ _ ih => exact List.forall_mem_cons.2 ⟨hp.1, ih (hp.2 x)⟩

/-- Programs that end one after the other, each with a log of its own. -/
inductive AllEnd : List (Program I α) → List (Event I) → List α → Prop where
  | nil : AllEnd [] [] []
  | cons {p : Program I α} {ps : List (Program I α)} {l l' : List (Event I)} {a : α}
      {as : List α} : Ends p l a → AllEnd ps l' as → AllEnd (p :: ps) (l ++ l') (a :: as)

theorem allEnd_runAll {σ : Type} (h : Handler I σ) (ps : List (Program I α)) (now : Nat) (s : σ) :
    AllEnd ps (runAll h ps now s).events (runAll h ps now s).result := by
  induction ps generalizing s with
  | nil => exact .nil
  | cons p ps ih => exact .cons (p.ends_run h now s) (ih _)

end Program

/-! ## Attempts -/

namespace Attempt

open Program (Ends)

@[simp] theorem ends_ofExcept {x y : Except ε α} {log : List (Event I)} :
    Ends (ofExcept x : Attempt I ε α).run log y ↔ log = [] ∧ y = x := Program.ends_done

@[simp] theorem ends_pure {a : α} {y : Except ε α} {log : List (Event I)} :
    Ends (pure a : Attempt I ε α).run log y ↔ log = [] ∧ y = .ok a := Program.ends_done

theorem ends_request {r : I.Request} {f : I.Answer r → Except ε α} {y : Except ε α}
    {log : List (Event I)} : Ends (request r f : Attempt I ε α).run log y ↔
      ∃ x asked answered, log = [⟨r, x, asked, answered⟩] ∧ y = f x := by
  constructor
  · intro h
    obtain ⟨x, asked, answered, l, rfl, hl⟩ := Program.ends_ask.1 h
    obtain ⟨rfl, rfl⟩ := Program.ends_done.1 hl
    exact ⟨x, asked, answered, rfl, rfl⟩
  · rintro ⟨x, asked, answered, rfl, rfl⟩
    exact .ask x asked answered (.done _)

theorem asksOnly_ofExcept {allowed : I.Request → Prop} (x : Except ε α) :
    (ofExcept x : Attempt I ε α).run.AsksOnly allowed := trivial

theorem asksOnly_request {allowed : I.Request → Prop} {r : I.Request} {f : I.Answer r → Except ε α}
    (h : allowed r) : (request r f : Attempt I ε α).run.AsksOnly allowed := ⟨h, fun _ => trivial⟩

theorem asksOnly_bind {allowed : I.Request → Prop} {p : Attempt I ε α} {f : α → Attempt I ε β}
    (hp : p.run.AsksOnly allowed) (hf : ∀ a, (f a).run.AsksOnly allowed) :
    (p >>= f).run.AsksOnly allowed := by
  refine Program.AsksOnly.bind hp fun x => ?_
  cases x with
  | error e => exact trivial
  | ok a => exact hf a

theorem ends_bind {p : Attempt I ε α} {f : α → Attempt I ε β} {log : List (Event I)}
    {y : Except ε β} : Ends (p >>= f).run log y ↔
      (∃ e, Ends p.run log (.error e) ∧ y = .error e) ∨
      ∃ a l l', log = l ++ l' ∧ Ends p.run l (.ok a) ∧ Ends (f a).run l' y := by
  refine Program.ends_bind.trans ⟨?_, ?_⟩
  · rintro ⟨x, l, l', rfl, hp, hf⟩
    cases x with
    | ok a => exact .inr ⟨a, l, l', rfl, hp, hf⟩
    | error e =>
      obtain ⟨rfl, rfl⟩ := Program.ends_done.1 hf
      exact .inl ⟨e, by rwa [List.append_nil], rfl⟩
  · rintro (⟨e, hp, rfl⟩ | ⟨a, l, l', rfl, hp, hf⟩)
    · exact ⟨.error e, log, [], (List.append_nil _).symm, hp, .done _⟩
    · exact ⟨.ok a, l, l', rfl, hp, hf⟩

theorem ends_bind_ok {p : Attempt I ε α} {f : α → Attempt I ε β} {log : List (Event I)} {b : β} :
    Ends (p >>= f).run log (.ok b) ↔
      ∃ a l l', log = l ++ l' ∧ Ends p.run l (.ok a) ∧ Ends (f a).run l' (.ok b) := by
  rw [ends_bind]
  constructor
  · rintro (⟨e, -, h⟩ | h)
    · cases h
    · exact h
  · exact .inr

theorem ends_request_bind {r : I.Request} {f : I.Answer r → Except ε α} {g : α → Except ε β}
    {y : Except ε β} {log : List (Event I)} :
    Ends (request r f >>= fun a => ofExcept (g a) : Attempt I ε β).run log y ↔
      ∃ x asked answered, log = [⟨r, x, asked, answered⟩] ∧ y = f x >>= g := by
  constructor
  · intro h
    rcases ends_bind.1 h with ⟨e, h₁, rfl⟩ | ⟨a, l, l', rfl, h₁, h₂⟩
    · obtain ⟨x, asked, answered, rfl, hx⟩ := ends_request.1 h₁
      exact ⟨x, asked, answered, rfl, by rw [← hx]; rfl⟩
    · obtain ⟨x, asked, answered, rfl, hx⟩ := ends_request.1 h₁
      obtain ⟨rfl, rfl⟩ := ends_ofExcept.1 h₂
      exact ⟨x, asked, answered, rfl, by rw [← hx]; rfl⟩
  · rintro ⟨x, asked, answered, rfl, rfl⟩
    refine .ask x asked answered ?_
    change Ends (Program.bind (.done (f x)) _) [] _
    cases f x with
    | error e => exact .done _
    | ok a => exact .done _

end Attempt

/-! ## Flows -/

namespace Flow

open Program (AllEnd)

/-- Answered as in the log, the flow ends with the result; spawned programs finish in any order. -/
inductive Ends : {α : Type} → Flow I α → List (Event I) → α → Prop where
  | done {α : Type} (a : α) : Ends (.done a) [] a
  | ask {α : Type} {r : I.Request} {next : I.Answer r → Flow I α} {log : List (Event I)} {a : α}
      (x : I.Answer r) (asked answered : Nat) : Ends (next x) log a →
      Ends (.ask r next) (⟨r, x, asked, answered⟩ :: log) a
  | gather {α β : Type} {tasks ts : List (Program I β)} {next : List β → Flow I α}
      {l l' : List (Event I)} {xs : List β} {a : α} : ts.Perm tasks → AllEnd ts l xs →
      Ends (next xs) l' a → Ends (.gather tasks next) (l ++ l') a

@[simp] theorem ends_done {a b : α} {log : List (Event I)} :
    Ends (.done a) log b ↔ log = [] ∧ b = a := by
  constructor
  · intro h; cases h; exact ⟨rfl, rfl⟩
  · rintro ⟨rfl, rfl⟩; exact .done _

@[simp] theorem ends_pure {a b : α} {log : List (Event I)} :
    Ends (pure a) log b ↔ log = [] ∧ b = a := ends_done

theorem ends_all {tasks : List (Program I α)} {log : List (Event I)} {xs : List α} :
    Ends (all tasks) log xs ↔ ∃ ts, ts.Perm tasks ∧ AllEnd ts log xs := by
  constructor
  · intro h
    cases h with
    | gather hp hx h =>
      obtain ⟨rfl, rfl⟩ := ends_done.1 h
      rw [List.append_nil]
      exact ⟨_, hp, hx⟩
  · rintro ⟨ts, hp, hx⟩
    rw [← List.append_nil log]
    exact .gather hp hx (.done xs)

theorem ends_bind {p : Flow I α} {f : α → Flow I β} {log : List (Event I)} {b : β} :
    Ends (p.bind f) log b → ∃ a l l', log = l ++ l' ∧ Ends p l a ∧ Ends (f a) l' b := by
  intro h
  induction p generalizing log with
  | done a => exact ⟨a, [], log, rfl, .done a, h⟩
  | ask r next ih =>
    cases h with
    | ask x asked answered h =>
      obtain ⟨a, l₁, l₂, rfl, h₁, h₂⟩ := ih x h
      exact ⟨a, _ :: l₁, l₂, rfl, .ask x asked answered h₁, h₂⟩
  | gather tasks next ih =>
    cases h with
    | gather hp hx h =>
      obtain ⟨a, l₁, l₂, rfl, h₁, h₂⟩ := ih _ h
      exact ⟨a, _, l₂, (List.append_assoc ..).symm, .gather hp hx h₁, h₂⟩

theorem ends_ofProgram {p : Program I α} {log : List (Event I)} {a : α} :
    Ends (ofProgram p) log a → Program.Ends p log a := by
  intro h
  induction p generalizing log with
  | done b => obtain ⟨rfl, rfl⟩ := ends_done.1 h; exact .done _
  | ask r next ih =>
    cases h with
    | ask x asked answered h => exact .ask x asked answered (ih x h)

/-- The events of a run are a log of the flow, in whichever order spawned programs finish. -/
theorem ends_run {σ : Type} (h : Handler I σ) (order : Arrangement) (p : Flow I α) (now : Nat)
    (s : σ) : Ends p (p.run h order now s).events (p.run h order now s).result := by
  induction p generalizing now s with
  | done a => exact .done a
  | ask r next ih => exact .ask _ _ _ (ih _ _ _)
  | gather tasks next ih =>
    exact .gather (order.perm tasks) (Program.allEnd_runAll h _ now s) (ih _ _ _)

/-- A flow followed by another runs as the one and then the other. -/
theorem run_bind {σ : Type} (h : Handler I σ) (order : Arrangement) (p : Flow I α)
    (f : α → Flow I β) (now : Nat) (s : σ) :
    (p.bind f).run h order now s =
      ((f (p.run h order now s).result).run h order (p.run h order now s).finished
        (p.run h order now s).state).after (p.run h order now s).events := by
  induction p generalizing now s with
  | done a => simp [bind, run, Run.after]
  | ask r next ih => simp [bind, run, Run.after, ih]
  | gather tasks next ih => simp [bind, run, Run.after, ih]

end Flow

end TokenBridge
