import TokenBridge.Proofs.Program

/-!
# Programs side by side

Two runs that are answered differently are compared request by request.
`Alike change R p q`: asked what `p` is asked, with each answer changed, `q` asks
the same, and the results of both are related. What is related may depend on the
log of `p`. Programs in a row are alike where their parts are (`Alike.bind`), and
alike programs have related runs (`Alike.run`).
-/

namespace TokenBridge

variable {I : Interface} {α β α' β' ε σ : Type}
  {change : (r : I.Request) → I.Answer r → I.Answer r}

/-- The handler with each of its answers changed. -/
def Handler.changing (h : Handler I σ) (change : (r : I.Request) → I.Answer r → I.Answer r) :
    Handler I σ where
  reply now r s :=
    let reply := h.reply now r s
    ⟨change r reply.answer, reply.duration, reply.state⟩

namespace Program

/-- The second program, given each answer of the first one changed, asks the same and ends with a
related result. -/
inductive Alike (change : (r : I.Request) → I.Answer r → I.Answer r) :
    (List (Event I) → α → β → Prop) → Program I α → Program I β → Prop where
  | done {R : List (Event I) → α → β → Prop} {a : α} {b : β} : R [] a b →
      Alike change R (.done a) (.done b)
  | ask {R : List (Event I) → α → β → Prop} {r : I.Request} {next : I.Answer r → Program I α}
      {next' : I.Answer r → Program I β} :
      (∀ x asked answered, Alike change (fun log => R (⟨r, x, asked, answered⟩ :: log)) (next x)
        (next' (change r x))) →
      Alike change R (.ask r next) (.ask r next')

variable {R : List (Event I) → α → β → Prop} {S : List (Event I) → α' → β' → Prop}

theorem Alike.bind {p : Program I α} {q : Program I β} {f : α → Program I α'}
    {g : β → Program I β'} (hp : Alike change R p q)
    (hf : ∀ l a b, R l a b → Alike change (fun l' => S (l ++ l')) (f a) (g b)) :
    Alike change S (p.bind f) (q.bind g) := by
  induction hp generalizing S with
  | done hr => exact hf [] _ _ hr
  | ask _ ih => exact .ask fun x asked answered => ih x asked answered fun l => hf (_ :: l)

theorem Alike.run {p : Program I α} {q : Program I β} (hp : Alike change R p q) (h : Handler I σ)
    (now : Nat) (s : σ) :
    R (p.run h now s).events (p.run h now s).result (q.run (h.changing change) now s).result := by
  induction hp generalizing now s with
  | done hr => exact hr
  | ask _ ih => exact ih _ _ _ _ _

end Program

/-! ## Attempts -/

/-- Two attempts have failed alike, or have related values. -/
inductive Paired (E : ε → Prop) (R : α → β → Prop) : Except ε α → Except ε β → Prop where
  | error {e : ε} : E e → Paired E R (.error e) (.error e)
  | ok {a : α} {b : β} : R a b → Paired E R (.ok a) (.ok b)

namespace Attempt

/-- Attempts that ask the same, and fail alike or have related values. -/
def Alike (change : (r : I.Request) → I.Answer r → I.Answer r) (E : ε → Prop)
    (R : List (Event I) → α → β → Prop) (p : Attempt I ε α) (q : Attempt I ε β) : Prop :=
  Program.Alike change (fun log => Paired E (R log)) p.run q.run

variable {E : ε → Prop} {R : List (Event I) → α → β → Prop}

theorem alike_request {r : I.Request} {f : I.Answer r → Except ε α} {g : I.Answer r → Except ε β}
    (h : ∀ x asked answered, Paired E (R [⟨r, x, asked, answered⟩]) (f x) (g (change r x))) :
    Alike change E R (request r f) (request r g) :=
  .ask fun x asked answered => .done (h x asked answered)

theorem alike_bind {S : List (Event I) → Except ε α' → Except ε β' → Prop} {p : Attempt I ε α}
    {q : Attempt I ε β} {f : α → Attempt I ε α'} {g : β → Attempt I ε β'}
    (hp : Alike change E R p q) (he : ∀ l e, E e → S l (.error e) (.error e))
    (hf : ∀ l a b, R l a b → Program.Alike change (fun l' => S (l ++ l')) (f a).run (g b).run) :
    Program.Alike change S (p >>= f).run (q >>= g).run := by
  refine Program.Alike.bind hp fun l y y' h => ?_
  cases h with
  | error h => exact .done (by rw [List.append_nil]; exact he l _ h)
  | ok h => exact hf l _ _ h

end Attempt

end TokenBridge
