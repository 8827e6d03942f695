/-!
# Programs that ask

A program over an interface is either done, or it asks one question and goes on from the answer.
Written like this, what a handler may do is a value: it can be run against a store in memory,
carried out by another interface, interleaved with other programs step by step, or recorded call by
call. Main statements: the monad laws (`bind_done`, `bind_assoc`), and that running against a state
goes through `>>=` (`run_bind`).
-/

namespace MergeScribe

/-- What a program may ask, and what kind of answer each question has. -/
structure Interface where
  Call : Type
  Answer : Call → Type

/-- A program over an interface that ends in a value. -/
inductive Program (I : Interface) (α : Type) : Type where
  | done (value : α) : Program I α
  | ask (call : I.Call) (next : I.Answer call → Program I α) : Program I α

namespace Program

variable {I J : Interface} {α β γ : Type}

/-! ## 1. Sequencing -/

/-- Run one program, then the one that its value chooses. -/
def bind : Program I α → (α → Program I β) → Program I β
  | .done a, k => k a
  | .ask c next, k => .ask c fun answer => (next answer).bind k

instance : Monad (Program I) where
  pure := .done
  bind := bind

/-- The program that asks one question and ends with its answer. -/
def request (c : I.Call) : Program I (I.Answer c) :=
  .ask c .done

theorem bind_done : (p : Program I α) → p.bind .done = p
  | .done _ => rfl
  | .ask c next => congrArg (Program.ask c) (funext fun answer => bind_done (next answer))

theorem bind_assoc (f : α → Program I β) (g : β → Program I γ) :
    (p : Program I α) → (p.bind f).bind g = p.bind fun a => (f a).bind g
  | .done _ => rfl
  | .ask c next =>
    congrArg (Program.ask c) (funext fun answer => bind_assoc f g (next answer))

/-! ## 2. Running -/

/-- A way to answer each question from a state that the answer may change. -/
abbrev Responder (I : Interface) (σ : Type) : Type :=
  (c : I.Call) → σ → I.Answer c × σ

/-- Run a program against a state. -/
def run {σ : Type} (respond : Responder I σ) : Program I α → σ → α × σ
  | .done a, s => (a, s)
  | .ask c next, s => (next (respond c s).1).run respond (respond c s).2

theorem run_bind {σ : Type} (respond : Responder I σ) (k : α → Program I β) :
    (p : Program I α) → (s : σ) →
      (p.bind k).run respond s = (k (p.run respond s).1).run respond (p.run respond s).2
  | .done _, _ => rfl
  | .ask c next, s => run_bind respond k (next (respond c s).1) (respond c s).2

/-- Answer as before, and note down the calls, the last one first. -/
def noting {σ : Type} (respond : Responder I σ) : Responder I (σ × List I.Call) :=
  fun c (s, calls) =>
    let (answer, s) := respond c s
    (answer, s, c :: calls)

/-- Run a program against a state, and answer the calls too, in order. -/
def trace {σ : Type} (respond : Responder I σ) (p : Program I α) (s : σ) : α × σ × List I.Call :=
  let (value, s, calls) := p.run (noting respond) (s, [])
  (value, s, calls.reverse)

/-- Carry a program out in another interface, question by question. -/
def interpret (carry : (c : I.Call) → Program J (I.Answer c)) : Program I α → Program J α
  | .done a => .done a
  | .ask c next => (carry c).bind fun answer => (next answer).interpret carry

/-- Carry a program out with the effects of a monad. -/
def perform {m : Type → Type} [Monad m] (carry : (c : I.Call) → m (I.Answer c)) :
    Program I α → m α
  | .done a => Pure.pure a
  | .ask c next => carry c >>= fun answer => (next answer).perform carry

end Program

end MergeScribe
