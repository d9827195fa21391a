/-!
# Programs that ask

What a transfer does is written as data: a tree of requests, each with a
continuation for every answer. Nothing in a program says who answers.

* An `Interface` lists the requests and the type of answer to each.
* A `Program` is finished, or asks one request and goes on with its answer.
* A `Flow` may also spawn several programs at once and go on with their
  results, in the order in which they finished.
* A `Handler` answers with a state of its own; running a program against it
  gives the result, the events in order, and the time.

Spawned programs start at the same instant; the flow goes on when the last has
finished. The order in which they finish is an `Arrangement`, of which a run
takes any. A run takes them whole, one after the other: it does not interleave
their requests, and it loses none of them.
-/

namespace TokenBridge

/-- Requests and the answers to them. -/
structure Interface where
  Request : Type
  Answer : Request → Type

inductive Program (I : Interface) (α : Type) : Type where
  | done (a : α)
  | ask (r : I.Request) (next : I.Answer r → Program I α)

namespace Program

variable {I J : Interface} {α β : Type}

def bind : Program I α → (α → Program I β) → Program I β
  | done a, f => f a
  | ask r next, f => ask r fun x => (next x).bind f

instance : Monad (Program I) where
  pure := done
  bind := bind

def request (r : I.Request) : Program I (I.Answer r) := ask r done

/-- The program with each request put to another interface that gives the same answers. -/
def relay (f : I.Request → J.Request) (g : (r : I.Request) → J.Answer (f r) → I.Answer r) :
    Program I α → Program J α
  | done a => done a
  | ask r next => ask (f r) fun x => (next (g r x)).relay f g

end Program

abbrev Attempt (I : Interface) (ε α : Type) := ExceptT ε (Program I) α

namespace Attempt

variable {I : Interface} {ε ε' α : Type}

/-- An outcome that is known without asking. -/
def ofExcept (x : Except ε α) : Attempt I ε α := ExceptT.mk (.done x)

def request (r : I.Request) (f : I.Answer r → Except ε α) : Attempt I ε α :=
  ExceptT.mk (.ask r fun x => .done (f x))

end Attempt

/-! ## Flows -/

inductive Flow (I : Interface) (α : Type) : Type 1 where
  | done (a : α)
  | ask (r : I.Request) (next : I.Answer r → Flow I α)
  | gather {β : Type} (tasks : List (Program I β)) (next : List β → Flow I α)

namespace Flow

variable {I : Interface} {α β : Type}

def bind : Flow I α → (α → Flow I β) → Flow I β
  | done a, f => f a
  | ask r next, f => ask r fun x => (next x).bind f
  | gather tasks next, f => gather tasks fun xs => (next xs).bind f

instance : Monad (Flow I) where
  pure := done
  bind := bind

def ofProgram : Program I α → Flow I α
  | .done a => done a
  | .ask r next => ask r fun x => ofProgram (next x)

/-- The results of programs spawned at once, in the order of finishing. -/
def all (tasks : List (Program I α)) : Flow I (List α) := gather tasks done

end Flow

/-! ## Running -/

/-- An answer, how long it took, and the state after it. -/
structure Reply (A : Type) (σ : Type) where
  answer : A
  duration : Nat
  state : σ

/-- Answers requests; `now` is the time at which one is asked. -/
structure Handler (I : Interface) (σ : Type) where
  reply : (now : Nat) → (r : I.Request) → σ → Reply (I.Answer r) σ

/-- A request with its answer and the times of both. -/
structure Event (I : Interface) where
  request : I.Request
  answer : I.Answer request
  asked : Nat
  answered : Nat

/-- The end of a run: result, events in order, state and time. -/
structure Run (I : Interface) (σ α : Type) where
  result : α
  events : List (Event I)
  state : σ
  finished : Nat

/-- The run with earlier events in front. -/
def Run.after {I : Interface} {σ α : Type} (before : List (Event I)) (r : Run I σ α) :
    Run I σ α :=
  { r with events := before ++ r.events }

def Program.run {I : Interface} {σ α : Type} (h : Handler I σ) :
    Program I α → (now : Nat) → σ → Run I σ α
  | done a, now, s => ⟨a, [], s, now⟩
  | ask r next, now, s =>
    let reply := h.reply now r s
    let answered := now + reply.duration
    ((next reply.answer).run h answered reply.state).after
      [⟨r, reply.answer, now, answered⟩]

/-- Runs of several programs that start at one time, each whole and in the state that the one before
it left; the time is that of the last to finish. -/
def Program.runAll {I : Interface} {σ α : Type} (h : Handler I σ) :
    List (Program I α) → (now : Nat) → σ → Run I σ (List α)
  | [], now, s => ⟨[], [], s, now⟩
  | p :: rest, now, s =>
    let first := p.run h now s
    let others := runAll h rest now first.state
    ⟨first.result :: others.result, first.events ++ others.events, others.state,
      max first.finished others.finished⟩

/-- An order for the elements of any list. -/
structure Arrangement where
  arrange : {α : Type} → List α → List α
  perm : ∀ {α : Type} (xs : List α), (arrange xs).Perm xs

/-- Tasks finish in the order in which they were spawned. -/
def Arrangement.asSpawned : Arrangement := ⟨fun xs => xs, fun _ => .refl _⟩

/-- Tasks finish in the opposite order. -/
def Arrangement.reversed : Arrangement := ⟨List.reverse, List.reverse_perm⟩

/-- A run of a flow in which spawned programs are run whole, one after the other in the given
order. -/
def Flow.run {I : Interface} {σ α : Type} (h : Handler I σ) (order : Arrangement) :
    Flow I α → (now : Nat) → σ → Run I σ α
  | done a, now, s => ⟨a, [], s, now⟩
  | ask r next, now, s =>
    let reply := h.reply now r s
    let answered := now + reply.duration
    ((next reply.answer).run h order answered reply.state).after
      [⟨r, reply.answer, now, answered⟩]
  | gather tasks next, now, s =>
    let spawned := Program.runAll h (order.arrange tasks) now s
    ((next spawned.result).run h order spawned.finished spawned.state).after spawned.events

end TokenBridge
