import MergeScribe.Program

/-!
# Transcripts

What a program asked when it ran, and what it was answered. Main statements: the calls of the
transcript are those that running the program notes down (`transcript_calls`); programs one after
the other have their transcripts one after the other (`transcript_bind`); to each state of a run its
first exchanges led (`leads_states`); and a program that asks only questions of one kind, whatever it
is answered, has only these in its transcript (`Only.of_mem_transcript`).
-/

namespace MergeScribe

namespace Program

variable {I : Interface} {α σ : Type}

/-- A call and the answer to it. -/
structure Exchange (I : Interface) where
  call : I.Call
  answer : I.Answer call

/-- Run a program against a state, and keep the calls with their answers, in order. -/
def transcript (respond : Responder I σ) : Program I α → σ → List (Exchange I)
  | .done _, _ => []
  | .ask c next, s =>
    ⟨c, (respond c s).1⟩ :: (next (respond c s).1).transcript respond (respond c s).2

/-- A run that starts with a question goes on from the answer. -/
theorem ask_elim {respond : Responder I σ} {P : List (Exchange I) → α → σ → Prop} {c : I.Call}
    {answer : I.Answer c} {s s' : σ} (h : respond c s = (answer, s'))
    {next : I.Answer c → Program I α} {p : Program I α} (hn : next answer = p)
    (hp : P (⟨c, answer⟩ :: p.transcript respond s') (p.run respond s').1 (p.run respond s').2) :
    P ((ask c next).transcript respond s) ((ask c next).run respond s).1
      ((ask c next).run respond s).2 := by
  rw [transcript, run, h, hn]
  exact hp

theorem run_noting (respond : Responder I σ) : (p : Program I α) → (s : σ) → (calls : List I.Call) →
    p.run (noting respond) (s, calls) =
      ((p.run respond s).1, (p.run respond s).2,
        ((p.transcript respond s).map Exchange.call).reverse ++ calls)
  | .done _, _, _ => rfl
  | .ask c next, s, calls => by
      have ih := run_noting respond (next (respond c s).1) (respond c s).2 (c :: calls)
      show (next (respond c s).1).run (noting respond) ((respond c s).2, c :: calls) = _
      rw [ih]
      simp [transcript, run]

/-- **The transcript has the calls that running the program notes down.** -/
theorem transcript_calls (respond : Responder I σ) (p : Program I α) (s : σ) :
    (p.transcript respond s).map Exchange.call = (p.trace respond s).2.2 := by
  unfold trace
  rw [run_noting]
  simp

/-- **Programs one after the other have their transcripts one after the other.** -/
theorem transcript_bind {β : Type} (respond : Responder I σ) (k : α → Program I β) :
    (p : Program I α) → (s : σ) → (p.bind k).transcript respond s =
      p.transcript respond s ++ (k (p.run respond s).1).transcript respond (p.run respond s).2
  | .done _, _ => rfl
  | .ask c next, s => by
      rw [bind, transcript, transcript_bind respond k (next (respond c s).1)]
      rfl

/-! ## States along a run -/

/-- The states that a run goes through, the first and the last one too. -/
def states (respond : Responder I σ) : Program I α → σ → List σ
  | .done _, s => [s]
  | .ask c next, s => s :: (next (respond c s).1).states respond (respond c s).2

theorem run_mem_states (respond : Responder I σ) : (p : Program I α) → (s : σ) →
    (p.run respond s).2 ∈ p.states respond s
  | .done _, _ => List.mem_singleton_self _
  | .ask c next, s =>
    List.mem_cons_of_mem s (run_mem_states respond (next (respond c s).1) (respond c s).2)

section Leads

variable {respond : Responder I σ} {R : σ → List (Exchange I) → σ → Prop}

/-- What holds of no exchange, and of one more exchange in front, holds of a run. -/
theorem leads_run (none : ∀ s, R s [] s)
    (cons : ∀ c s xs s', R (respond c s).2 xs s' → R s (⟨c, (respond c s).1⟩ :: xs) s') :
    (p : Program I α) → (s : σ) → R s (p.transcript respond s) (p.run respond s).2
  | .done _, s => none s
  | .ask c next, s => cons c s _ _ (leads_run none cons (next (respond c s).1) (respond c s).2)

/-- **To each state of a run its first exchanges led.** -/
theorem leads_states (none : ∀ s, R s [] s)
    (cons : ∀ c s xs s', R (respond c s).2 xs s' → R s (⟨c, (respond c s).1⟩ :: xs) s') :
    (p : Program I α) → (s : σ) → ∀ s' ∈ p.states respond s,
      ∃ xs, xs <+: p.transcript respond s ∧ R s xs s'
  | .done _, s, s', h => by
      obtain rfl : s' = s := List.mem_singleton.mp h
      exact ⟨[], List.nil_prefix, none s'⟩
  | .ask c next, s, s', h => by
      rcases List.mem_cons.mp h with rfl | h
      · exact ⟨[], List.nil_prefix, none s'⟩
      · obtain ⟨xs, hxs, hr⟩ := leads_states none cons _ _ s' h
        exact ⟨_ :: xs, List.prefix_cons_inj _ |>.mpr hxs, cons c s xs s' hr⟩

end Leads

/-! ## Kinds of questions -/

/-- The program asks only questions of a kind, whatever it is answered. -/
inductive Only (P : I.Call → Prop) : Program I α → Prop
  | done (a : α) : Only P (.done a)
  | ask {c : I.Call} {next : I.Answer c → Program I α} (h : P c) (hn : ∀ answer, Only P (next answer)) :
      Only P (.ask c next)

namespace Only

variable {P : I.Call → Prop}

theorem mono {Q : I.Call → Prop} (hPQ : ∀ c, P c → Q c) {p : Program I α} (hp : Only P p) :
    Only Q p := by
  induction hp with
  | done a => exact .done a
  | ask h _ ih => exact .ask (hPQ _ h) ih

theorem bind {β : Type} {p : Program I α} {k : α → Program I β} (hp : Only P p)
    (hk : ∀ a, Only P (k a)) : Only P (p.bind k) := by
  induction hp with
  | done a => exact hk a
  | ask h _ ih => exact .ask h ih

theorem of_mem_transcript {p : Program I α} (hp : Only P p) (respond : Responder I σ) {s : σ}
    {x : Exchange I} (hx : x ∈ p.transcript respond s) : P x.call := by
  induction hp generalizing s with
  | done a => cases hx
  | ask h _ ih =>
      rcases List.mem_cons.mp hx with rfl | hx
      · exact h
      · exact ih _ hx

/-- What every question of a kind keeps, a program that asks only such questions keeps. -/
theorem run_eq {τ : Type} {f : σ → τ} {respond : Responder I σ}
    (hf : ∀ c s, P c → f (respond c s).2 = f s) {p : Program I α} (hp : Only P p) (s : σ) :
    f (p.run respond s).2 = f s := by
  induction hp generalizing s with
  | done a => rfl
  | ask h _ ih => exact (ih _ _).trans (hf _ s h)

end Only

end Program

end MergeScribe
