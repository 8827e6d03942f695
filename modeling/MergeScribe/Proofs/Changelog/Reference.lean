import MergeScribe.Changelog.Line
import MergeScribe.Proofs.Text.Character
import MergeScribe.Proofs.Text.Trim

/-!
# References at the end of a text

A text ends in a reference when something comes first, then a space and the reference in
parentheses. Main statements: such a text can be taken apart in one way only, and that is how it is
taken apart (`splitReference_append`); a text that does not end in a reference stays whole
(`splitReference_of_not`); one of the two is the case (`splitReference_cases`).
-/

namespace MergeScribe

open Text

/-- A text that ends in a reference in parentheses, after a space and something before it. -/
def EndsInReference (t : Text) : Prop :=
  ∃ before r : Text, before ≠ [] ∧ isReference r = true ∧ t = before ++ " (" ++ r ++ ")"

/-! ## 1. Characters of a reference -/

theorem mem_of_isReference {r : Text} {c : Char} (h : isReference r = true) (hc : c ∈ r) :
    c = '#' ∨ c = '@' ∨ isWord c = true := by
  unfold isReference at h
  split at h
  · simp only [Bool.and_eq_true, List.all_eq_true] at h
    rcases List.mem_cons.mp hc with rfl | hc
    · exact .inl rfl
    · exact .inr (.inr (isWord_of_isDigit (h.2 c hc)))
  · simp only [Bool.and_eq_true, List.all_eq_true] at h
    rcases List.mem_cons.mp hc with rfl | hc
    · exact .inr (.inl rfl)
    · exact .inr (.inr (h.2 c hc))
  · cases h

theorem not_mem_of_isReference {r : Text} {c : Char} (h : isReference r = true)
    (hw : isWord c = false) (hash : c ≠ '#') (sign : c ≠ '@') : c ∉ r := by
  intro hc
  rcases mem_of_isReference h hc with e | e | e
  · exact hash e
  · exact sign e
  · rw [hw] at e
    cases e

theorem space_not_mem_of_isReference {r : Text} (h : isReference r = true) : ' ' ∉ r :=
  not_mem_of_isReference h isWord_space (by decide) (by decide)

theorem feed_not_mem_of_isReference {r : Text} (h : isReference r = true) : '\n' ∉ r :=
  not_mem_of_isReference h isWord_feed (by decide) (by decide)

theorem isReference_ne_nil {r : Text} (h : isReference r = true) : r ≠ [] := by
  rintro rfl
  cases h

/-! ## 2. The closing reference -/

theorem beforeParenthesis?_eq_some_iff {t before : Text} :
    beforeParenthesis? t = some before ↔ t = before ++ [')'] := by
  fun_induction beforeParenthesis? t generalizing before with
  | case1 => simp
  | case2 =>
      constructor
      · intro h
        rw [← Option.some.inj h]
        rfl
      · intro h
        have hb : before = [] := by
          cases before with
          | nil => rfl
          | cons d rest => simp at h
        rw [hb]
  | case3 c hc =>
      constructor
      · intro h
        cases h
      · intro h
        cases before with
        | nil => exact absurd (List.head_eq_of_cons_eq h) hc
        | cons d rest => simp at h
  | case4 c rest hr ih =>
      rw [Option.map_eq_some_iff]
      constructor
      · rintro ⟨b, hb, rfl⟩
        rw [ih.mp hb]
        rfl
      · intro h
        cases before with
        | nil =>
            rw [List.nil_append, List.cons.injEq] at h
            exact absurd h.2 hr
        | cons d b =>
            rw [List.cons_append, List.cons.injEq] at h
            exact ⟨b, ih.mpr h.2, by rw [h.1]⟩

theorem closingReference?_eq_some_iff {t r : Text} :
    closingReference? t = some r ↔ t = " (" ++ r ++ ")" ∧ isReference r = true := by
  simp only [closingReference?, Option.bind_eq_some_iff, Option.filter_eq_some_iff,
    after?_eq_some_iff, beforeParenthesis?_eq_some_iff]
  constructor
  · rintro ⟨rest, rfl, rfl, hr⟩
    exact ⟨rfl, hr⟩
  · rintro ⟨rfl, hr⟩
    exact ⟨r ++ [')'], rfl, rfl, hr⟩

/-- A closing reference does not begin further on in another one, since it begins with a space. -/
theorem closingReference?_append {before r : Text} (hb : before ≠ []) :
    closingReference? (before ++ (" (" ++ r ++ ")")) = none := by
  refine Option.eq_none_iff_forall_ne_some.mpr fun r' h => ?_
  obtain ⟨e, hr'⟩ := closingReference?_eq_some_iff.mp h
  obtain ⟨c, rest, rfl⟩ := List.exists_cons_of_ne_nil hb
  have e' : rest ++ (" (" ++ r ++ ")") = "(" ++ r' ++ ")" := (List.cons.inj e).2
  have hs : ' ' ∈ ("(" ++ r' ++ ")" : Text) := by
    rw [← e']
    simp
  exact space_not_mem_of_isReference hr' (by simpa using hs)

/-! ## 3. Taking the reference off -/

theorem splitReference_cons_of_none {c : Char} {rest : Text} (h : closingReference? rest = none) :
    splitReference (c :: rest) = (c :: (splitReference rest).1, (splitReference rest).2) := by
  rw [splitReference, h]

/-- **A reference at the end is taken off.** -/
theorem splitReference_append : {before r : Text} → before ≠ [] → isReference r = true →
    splitReference (before ++ (" (" ++ r ++ ")")) = (before, some r)
  | [], _, hb, _ => absurd rfl hb
  | [c], r, _, hr => by
      have hc : closingReference? (" (" ++ r ++ ")") = some r :=
        closingReference?_eq_some_iff.mpr ⟨rfl, hr⟩
      show splitReference (c :: (" (" ++ r ++ ")" : Text)) = ([c], some r)
      rw [splitReference, hc]
  | c :: d :: before, r, _, hr => by
      have hne : d :: before ≠ [] := List.cons_ne_nil d before
      rw [List.cons_append, splitReference_cons_of_none (closingReference?_append hne),
        splitReference_append hne hr]

/-- What taking the reference off leaves, if there was one, and otherwise all. -/
theorem splitReference_spec (t : Text) :
    match splitReference t with
    | (before, some r) => before ≠ [] ∧ isReference r = true ∧ t = before ++ (" (" ++ r ++ ")")
    | (before, none) => before = t := by
  induction t with
  | nil => exact rfl
  | cons c rest ih =>
      cases hc : closingReference? rest with
      | some r =>
          obtain ⟨e, hr⟩ := closingReference?_eq_some_iff.mp hc
          rw [splitReference, hc]
          exact ⟨List.cons_ne_nil c [], hr, by rw [e]; rfl⟩
      | none =>
          rw [splitReference_cons_of_none hc]
          rcases hs : splitReference rest with ⟨before, r | r⟩
          · rw [hs] at ih
            exact congrArg (c :: ·) ih
          · rw [hs] at ih
            exact ⟨List.cons_ne_nil c before, ih.2.1, congrArg (c :: ·) ih.2.2⟩

theorem splitReference_of_endsInReference {t : Text} (h : EndsInReference t) :
    (splitReference t).2.isSome = true := by
  obtain ⟨before, r, hb, hr, rfl⟩ := h
  rw [List.append_assoc before, List.append_assoc before, splitReference_append hb hr]
  rfl

/-- **A text that does not end in a reference stays whole.** -/
theorem splitReference_of_not {t : Text} (h : ¬ EndsInReference t) :
    splitReference t = (t, none) := by
  have hs := splitReference_spec t
  rcases e : splitReference t with ⟨before, r | r⟩
  · rw [e] at hs
    rw [hs]
  · rw [e] at hs
    obtain ⟨hb, hr, ht⟩ := hs
    exact absurd ⟨before, r, hb, hr, by rw [ht]; simp⟩ h

/-- **A text ends in a reference, which is taken off, or stays whole.** -/
theorem splitReference_cases (t : Text) :
    (∃ before r : Text, splitReference t = (before, some r) ∧ before ≠ [] ∧ isReference r = true ∧
      t = before ++ (" (" ++ r ++ ")")) ∨ (splitReference t = (t, none) ∧ ¬ EndsInReference t) := by
  have hs := splitReference_spec t
  rcases e : splitReference t with ⟨before, r | r⟩
  · rw [e] at hs
    refine .inr ⟨by rw [hs], fun h => ?_⟩
    have := splitReference_of_endsInReference h
    rw [e] at this
    cases this
  · rw [e] at hs
    exact .inl ⟨before, r, rfl, hs⟩

theorem endsInReference_iff {t : Text} :
    EndsInReference t ↔ (splitReference t).2.isSome = true := by
  refine ⟨splitReference_of_endsInReference, fun h => ?_⟩
  refine Classical.byContradiction fun hn => ?_
  rw [splitReference_of_not hn] at h
  cases h

instance (t : Text) : Decidable (EndsInReference t) :=
  decidable_of_iff _ endsInReference_iff.symm

end MergeScribe
