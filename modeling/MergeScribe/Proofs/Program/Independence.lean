import Mathlib.Logic.Function.Basic
import MergeScribe.Proofs.Program.Transcript

/-!
# Independent programs

When the state divides into parts, and each call has to do with one part only, then programs that
ask about different parts do not notice each other. Main statements: what a program asks, is answered
and ends in depends on its parts only (`Divides.same`), and it leaves the others alone
(`Divides.untouched`); so programs that each have a part of their own come out of every interleaving
as if each of them had run alone (`Interleaved.alone`), and running them in any order is an
interleaving (`interleaved_inOrder`); and two runs from states that differ in one part differ only
in what has to do with that part, as long as nothing is made to depend on it (`Alike.step`).
-/

namespace MergeScribe

namespace Program

variable {I : Interface} {α β σ ι : Type}

/-- A state that divides into parts, one for each member of a family and one for all else. States
may agree on a part. What a call is answered and does to its part depends on that part alone, and
the call leaves the other parts as they are. -/
structure Divides (respond : Responder I σ) (part : I.Call → Option ι)
    (agree : Option ι → σ → σ → Prop) : Prop where
  equivalence : ∀ k, Equivalence (agree k)
  own : ∀ {c s s'}, agree (part c) s s' → (respond c s).1 = (respond c s').1 ∧
    agree (part c) (respond c s).2 (respond c s').2
  others : ∀ {c k} s, part c ≠ k → agree k s (respond c s).2

section Divided

variable {respond : Responder I σ} {part : I.Call → Option ι} {agree : Option ι → σ → σ → Prop}

/-! ## 1. One program -/

namespace Divides

/-- States that agree on a part, and on that of a call, still do after the call. -/
theorem respond_agree (d : Divides respond part agree) {c : I.Call} {k : Option ι} {s s' : σ}
    (hc : agree (part c) s s') (hk : agree k s s') :
    agree k (respond c s).2 (respond c s').2 := by
  by_cases h : part c = k
  · exact h ▸ (d.own hc).2
  · have hbefore := (d.equivalence k).symm (d.others s h)
    exact (d.equivalence k).trans hbefore ((d.equivalence k).trans hk (d.others s' h))

/-- **What a program does depends on its parts only.** -/
theorem same (d : Divides respond part agree) {S : Option ι → Prop} {p : Program I α}
    (hp : Only (fun c => S (part c)) p) {s s' : σ} (h : ∀ k, S k → agree k s s') :
    p.transcript respond s = p.transcript respond s' ∧
      (p.run respond s).1 = (p.run respond s').1 ∧
      ∀ k, S k → agree k (p.run respond s).2 (p.run respond s').2 := by
  induction hp generalizing s s' with
  | done a => exact ⟨rfl, rfl, h⟩
  | @ask c next hc _ ih =>
      have hanswer := (d.own (h _ hc)).1
      obtain ⟨htranscript, hvalue, hafter⟩ := ih (respond c s').1
        fun k hk => d.respond_agree (h _ hc) (h k hk)
      rw [transcript, transcript, run, run, hanswer]
      exact ⟨congrArg _ htranscript, hvalue, hafter⟩

/-- **A program leaves the parts alone that it asks nothing about.** -/
theorem untouched (d : Divides respond part agree) {k : Option ι} {p : Program I α}
    (hp : Only (fun c => part c ≠ k) p) (s : σ) : agree k s (p.run respond s).2 := by
  induction hp generalizing s with
  | done a => exact (d.equivalence k).refl s
  | ask hc _ ih => exact (d.equivalence k).trans (d.others s hc) (ih _ _)

end Divides

/-- A program that asks about one part asks nothing about another. -/
theorem Only.other {k k' : Option ι} (hk : k ≠ k') {p : Program I α}
    (hp : Only (fun c => part c = k) p) : Only (fun c => part c ≠ k') p :=
  hp.mono fun _ hc => hc ▸ hk

/-! ## 2. Interleavings -/

/-- A way for programs to run at the same time, from start to end: what was asked and answered, the
values that they end in and the state that they leave. -/
inductive Interleaved [DecidableEq ι] (respond : Responder I σ) :
    (ι → Program I α) → σ → List (Exchange I) → (ι → α) → σ → Prop
  | finished {values : ι → α} {s : σ} :
      Interleaved respond (fun i => .done (values i)) s [] values s
  | turn {ps : ι → Program I α} {i : ι} {c : I.Call} {next : I.Answer c → Program I α} {s s' : σ}
      {exchanges : List (Exchange I)} {values : ι → α} (asks : ps i = .ask c next)
      (rest : Interleaved respond (Function.update ps i (next (respond c s).1)) (respond c s).2
        exchanges values s') :
      Interleaved respond ps s (⟨c, (respond c s).1⟩ :: exchanges) values s'

variable [DecidableEq ι]

/-- What was asked about a part. -/
def about (part : I.Call → Option ι) (k : Option ι) (exchanges : List (Exchange I)) :
    List (Exchange I) :=
  exchanges.filter fun x => part x.call = k

theorem about_append (k : Option ι) (exchanges more : List (Exchange I)) :
    about part k (exchanges ++ more) = about part k exchanges ++ about part k more :=
  List.filter_append exchanges more

/-- All that a program asks is about its part. -/
theorem Only.about_eq {k : Option ι} {p : Program I α} (hp : Only (fun c => part c = k) p) (s : σ) :
    about part k (p.transcript respond s) = p.transcript respond s :=
  List.filter_eq_self.mpr fun _ hx => by simpa using hp.of_mem_transcript respond hx

/-- Nothing that a program asks is about another part. -/
theorem Only.about_eq_nil {k k' : Option ι} (hk : k ≠ k') {p : Program I α}
    (hp : Only (fun c => part c = k) p) (s : σ) : about part k' (p.transcript respond s) = [] :=
  List.filter_eq_nil_iff.mpr fun _ hx => by
    simpa using (hp.other hk).of_mem_transcript respond hx

section Family

variable {ps : ι → Program I α} {s s' : σ} {exchanges : List (Exchange I)} {values : ι → α}

/-- What is left of a program after an answer asks about the same part. -/
theorem Only.after {P : I.Call → Prop} {c : I.Call} {next : I.Answer c → Program I α}
    (h : Only P (.ask c next)) : P c ∧ ∀ answer, Only P (next answer) := by
  cases h with
  | ask hc hn => exact ⟨hc, hn⟩

/-- **Each program comes out of an interleaving as if it had run alone.** -/
theorem Interleaved.alone (d : Divides respond part agree)
    (h : Interleaved respond ps s exchanges values s')
    (hp : ∀ i, Only (fun c => part c = some i) (ps i)) :
    (∀ i, values i = ((ps i).run respond s).1 ∧
      about part (some i) exchanges = (ps i).transcript respond s ∧
      agree (some i) ((ps i).run respond s).2 s') ∧ agree none s s' := by
  induction h with
  | finished => exact ⟨fun i => ⟨rfl, rfl, (d.equivalence _).refl _⟩, (d.equivalence _).refl _⟩
  | @turn ps i c next s s' exchanges values asks rest ih =>
      obtain ⟨hc, hnext⟩ := (asks ▸ hp i).after
      have hrest (j : ι) : Only (fun c => part c = some j)
          (Function.update ps i (next (respond c s).1) j) := by
        by_cases hj : j = i
        · subst hj
          rw [Function.update_self]
          exact hnext _
        · rw [Function.update_of_ne hj]
          exact hp j
      obtain ⟨hall, hnone⟩ := ih hrest
      refine ⟨fun j => ?_, (d.equivalence _).trans (d.others s (by simp [hc])) hnone⟩
      obtain ⟨hvalue, habout, hafter⟩ := hall j
      by_cases hj : j = i
      · subst hj
        rw [Function.update_self] at hvalue habout hafter
        rw [asks, about, List.filter_cons_of_pos (by simpa using hc), transcript, run]
        exact ⟨hvalue, congrArg _ habout, hafter⟩
      · -- this program finds its part as it was before the turn
        rw [Function.update_of_ne hj] at hvalue habout hafter
        have hne : part c ≠ some j := fun e => hj (Option.some.inj (e.symm.trans hc))
        obtain ⟨htranscript, hsame, hagree⟩ := d.same (S := (· = some j)) (hp j)
          fun k (hk : k = some j) => hk ▸ d.others s hne
        rw [about, List.filter_cons_of_neg (by simpa using hne), htranscript, hsame]
        exact ⟨hvalue, habout, (d.equivalence _).trans (hagree _ rfl) hafter⟩

/-! ## 3. Orders -/

/-- The programs of a family one after the other, in an order, each with its value. -/
def inOrder (ps : ι → Program I α) : List ι → Program I (List (ι × α))
  | [] => .done []
  | i :: more => (ps i).bind fun a => (inOrder ps more).bind fun rest => .done ((i, a) :: rest)

omit [DecidableEq ι] in
theorem run_inOrder_cons (ps : ι → Program I α) (i : ι) (more : List ι) (s : σ) :
    (inOrder ps (i :: more)).run respond s =
      ((i, ((ps i).run respond s).1) ::
          ((inOrder ps more).run respond ((ps i).run respond s).2).1,
        ((inOrder ps more).run respond ((ps i).run respond s).2).2) := by
  rw [inOrder, run_bind, run_bind]
  rfl

omit [DecidableEq ι] in
theorem transcript_inOrder_cons (ps : ι → Program I α) (i : ι) (more : List ι) (s : σ) :
    (inOrder ps (i :: more)).transcript respond s = (ps i).transcript respond s ++
      (inOrder ps more).transcript respond ((ps i).run respond s).2 := by
  rw [inOrder, transcript_bind, transcript_bind]
  show _ ++ (_ ++ []) = _
  rw [List.append_nil]

omit [DecidableEq ι] in
/-- An order depends on the programs in it only. -/
theorem inOrder_congr {qs : ι → Program I α} : {order : List ι} → (∀ i ∈ order, qs i = ps i) →
    inOrder qs order = inOrder ps order
  | [], _ => rfl
  | i :: more, h => by
      obtain ⟨hi, hmore⟩ := List.forall_mem_cons.mp h
      rw [inOrder, inOrder, hi, inOrder_congr hmore]

/-- One program may have all its turns first. -/
theorem Interleaved.first {i : ι} {p : Program I α} (hp : ps i = p)
    (h : Interleaved respond (Function.update ps i (.done (p.run respond s).1))
      (p.run respond s).2 exchanges values s') :
    Interleaved respond ps s (p.transcript respond s ++ exchanges) values s' := by
  induction p generalizing ps s with
  | done a =>
      rw [run, ← hp, Function.update_eq_self] at h
      exact h
  | ask c next ih =>
      refine .turn hp (ih _ (Function.update_self ..) ?_)
      rw [Function.update_idem]
      exact h

/-- **Running programs in some order is an interleaving of them**, if each of them is done or in the
order. -/
theorem interleaved_inOrder : {order : List ι} → order.Nodup → {ps : ι → Program I α} → {s : σ} →
    {values : ι → α} → (∀ i ∉ order, ps i = .done (values i)) →
    (((inOrder ps order).run respond s).1 = order.map fun i => (i, values i)) →
    Interleaved respond ps s ((inOrder ps order).transcript respond s) values
      ((inOrder ps order).run respond s).2
  | [], _, ps, s, values, hdone, _ => by
      obtain rfl : ps = fun i => .done (values i) := funext fun i => hdone i List.not_mem_nil
      exact .finished
  | i :: more, hnodup, ps, s, values, hdone, hvalues => by
      obtain ⟨hi, hmore⟩ := List.nodup_cons.mp hnodup
      rw [run_inOrder_cons] at hvalues ⊢
      rw [transcript_inOrder_cons]
      obtain ⟨hvalue, hrest⟩ := List.cons.inj hvalues
      have hvalue : ((ps i).run respond s).1 = values i := (Prod.mk.inj hvalue).2
      -- what is left of the first program is its value
      have hcongr : inOrder (Function.update ps i (.done (values i))) more = inOrder ps more :=
        inOrder_congr fun j hj => Function.update_of_ne (ne_of_mem_of_not_mem hj hi) _ ps
      refine .first rfl ?_
      rw [hvalue, ← hcongr]
      rw [← hcongr] at hrest
      refine interleaved_inOrder hmore (fun j hj => ?_) hrest
      by_cases hji : j = i
      · subst hji
        exact Function.update_self ..
      · rw [Function.update_of_ne hji]
        exact hdone j fun hm => (List.mem_cons.mp hm).elim hji hj

/-- Each program of an order has a value, and there are no others. -/
theorem exists_values [Nonempty α] (ps : ι → Program I α) :
    {order : List ι} → order.Nodup → (s : σ) → ∃ values : ι → α,
      ((inOrder ps order).run respond s).1 = order.map fun i => (i, values i)
  | [], _, _ => ⟨fun _ => Classical.ofNonempty, rfl⟩
  | i :: more, hnodup, s => by
      obtain ⟨hi, hmore⟩ := List.nodup_cons.mp hnodup
      obtain ⟨values, h⟩ := exists_values ps hmore ((ps i).run respond s).2
      refine ⟨Function.update values i ((ps i).run respond s).1, ?_⟩
      rw [run_inOrder_cons, h, List.map_cons, Function.update_self]
      refine congrArg (_ :: ·) (List.map_congr_left fun j hj => ?_)
      rw [Function.update_of_ne (ne_of_mem_of_not_mem hj hi)]

/-- **All interleavings come to the same**, in all parts of the state. -/
theorem Interleaved.unique (d : Divides respond part agree)
    (hp : ∀ i, Only (fun c => part c = some i) (ps i))
    (h : Interleaved respond ps s exchanges values s') {exchanges' : List (Exchange I)}
    {values' : ι → α} {s'' : σ} (h' : Interleaved respond ps s exchanges' values' s'') :
    values' = values ∧ (∀ i, about part (some i) exchanges' = about part (some i) exchanges) ∧
      ∀ k, agree k s'' s' := by
  obtain ⟨hall, hnone⟩ := h.alone d hp
  obtain ⟨hall', hnone'⟩ := h'.alone d hp
  refine ⟨funext fun i => (hall' i).1.trans (hall i).1.symm,
    fun i => (hall' i).2.1.trans (hall i).2.1.symm, fun k => ?_⟩
  have e := d.equivalence k
  cases k with
  | none => exact e.trans (e.symm hnone') hnone
  | some i => exact e.trans (e.symm (hall' i).2.2) (hall i).2.2

end Family

/-! ## 4. Two runs -/

/-- What was asked about all parts but one. -/
def besides (part : I.Call → Option ι) (i : ι) (exchanges : List (Exchange I)) :
    List (Exchange I) :=
  exchanges.filter fun x => part x.call ≠ some i

theorem about_besides {i : ι} {k : Option ι} (hk : k ≠ some i) (exchanges : List (Exchange I)) :
    about part k (besides part i exchanges) = about part k exchanges := by
  rw [about, besides, List.filter_filter]
  refine List.filter_congr fun x _ => ?_
  by_cases h : part x.call = k
  · simp [h, hk]
  · simp [h]

/-- Programs whose runs differ only in what has to do with one part, from states that differ only
there. Their values are related. -/
def Alike (respond : Responder I σ) (part : I.Call → Option ι) (agree : Option ι → σ → σ → Prop)
    (i : ι) (related : α → α → Prop) (p p' : Program I α) : Prop :=
  ∀ s s' : σ, (∀ k, k ≠ some i → agree k s s') →
    related (p.run respond s).1 (p'.run respond s').1 ∧
      besides part i (p.transcript respond s) = besides part i (p'.transcript respond s') ∧
      ∀ k, k ≠ some i → agree k (p.run respond s).2 (p'.run respond s').2

namespace Alike

variable {i : ι}

theorem done {related : α → α → Prop} {a a' : α} (h : related a a') :
    Alike respond part agree i related (.done a) (.done a') :=
  fun _ _ hs => ⟨h, rfl, hs⟩

/-- A question about another part has the same answer. -/
theorem ask (d : Divides respond part agree) {related : α → α → Prop} {c : I.Call}
    {next next' : I.Answer c → Program I α} (hc : part c ≠ some i)
    (h : ∀ answer, Alike respond part agree i related (next answer) (next' answer)) :
    Alike respond part agree i related (.ask c next) (.ask c next') := by
  intro s s' hs
  have hanswer := (d.own (hs _ hc)).1
  obtain ⟨hvalue, hbesides, hafter⟩ := h (respond c s').1 _ _
    fun k hk => d.respond_agree (hs _ hc) (hs k hk)
  rw [transcript, transcript, run, run, hanswer, besides, besides,
    List.filter_cons_of_pos (by simpa using hc), List.filter_cons_of_pos (by simpa using hc)]
  exact ⟨hvalue, congrArg _ hbesides, hafter⟩

/-- **A program that asks about one part may come first.** It ends in the same value unless it is
that part that differs. -/
theorem step (d : Divides respond part agree) {j : ι} {related : β → β → Prop} {p : Program I α}
    (hp : Only (fun c => part c = some j) p) {k k' : α → Program I β}
    (h : ∀ a a', (j ≠ i → a = a') → Alike respond part agree i related (k a) (k' a')) :
    Alike respond part agree i related (p.bind k) (p.bind k') := by
  intro s s' hs
  rw [run_bind, run_bind, transcript_bind, transcript_bind, besides, besides, List.filter_append,
    List.filter_append]
  by_cases hj : j = i
  · subst hj
    have hquiet (s : σ) :
        (p.transcript respond s).filter (fun x => part x.call ≠ some j) = [] :=
      List.filter_eq_nil_iff.mpr fun _ hx => by simpa using hp.of_mem_transcript respond hx
    have hkept (k : Option ι) (hk : k ≠ some j) (s : σ) : agree k s (p.run respond s).2 :=
      d.untouched (hp.other hk.symm) s
    obtain ⟨hvalue, hbesides, hafter⟩ := h _ _ (fun hne => absurd rfl hne) _ _ fun k hk =>
      (d.equivalence k).trans ((d.equivalence k).symm (hkept k hk s))
        ((d.equivalence k).trans (hs k hk) (hkept k hk s'))
    rw [hquiet, hquiet]
    exact ⟨hvalue, hbesides, hafter⟩
  · obtain ⟨htranscript, hsame, hagree⟩ := d.same (S := (· ≠ some i))
      (hp.other fun e => hj (Option.some.inj e)) hs
    obtain ⟨hvalue, hbesides, hafter⟩ := h _ _ (fun _ => hsame) _ _ hagree
    rw [htranscript]
    exact ⟨hvalue, congrArg _ hbesides, hafter⟩

end Alike

end Divided

end Program

end MergeScribe
