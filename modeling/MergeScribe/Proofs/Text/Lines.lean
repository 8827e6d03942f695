import MergeScribe.Proofs.Text.Trim

/-!
# Lines

How a file is cut into lines. Main statements: no line holds a line feed (`not_mem_of_mem_lines`);
a line that holds none and does not end in a carriage return is read back when a line feed follows
it (`lines_append_feed`), which `LaidOut` states for a text of several lines, so that a file can be
taken apart block by block (`laidOut_joined`); any file can be cut at a line feed (`lines_append`);
and a line feed at its end makes no difference where the text before it is firm
(`lines_concat_feed`).
-/

namespace MergeScribe

namespace Text

@[simp] theorem lines_nil : lines [] = [] := rfl

@[simp] theorem lines_cons_feed (rest : Text) : lines ('\n' :: rest) = [] :: lines rest := by
  rw [lines]

/-- No line holds a line feed. -/
theorem not_mem_of_mem_lines {t line : Text} (h : line ∈ lines t) : '\n' ∉ line := by
  fun_induction lines t generalizing line with
  | case1 => cases h
  | case2 rest ih =>
      rcases List.mem_cons.mp h with rfl | h
      · exact List.not_mem_nil
      · exact ih h
  | case3 rest ih =>
      rcases List.mem_cons.mp h with rfl | h
      · exact List.not_mem_nil
      · exact ih h
  | case4 c rest hc _ hrest ih =>
      rw [List.mem_singleton.mp h]
      exact fun hm => hc (List.mem_singleton.mp hm).symm
  | case5 c rest hc _ first more hrest ih =>
      rw [hrest] at ih
      rcases List.mem_cons.mp h with rfl | h
      · intro hm
        rcases List.mem_cons.mp hm with e | hm
        · exact hc e.symm
        · exact ih List.mem_cons_self hm
      · exact ih (List.mem_cons_of_mem _ h)

/-- A line holds no other characters than its text. -/
theorem subset_of_mem_lines {t line : Text} (h : line ∈ lines t) : line ⊆ t := by
  fun_induction lines t generalizing line with
  | case1 => cases h
  | case2 rest ih =>
      cases List.mem_cons.mp h with
      | inl e =>
          rw [e]
          exact List.nil_subset _
      | inr h => exact List.subset_cons_of_subset _ (ih h)
  | case3 rest ih =>
      cases List.mem_cons.mp h with
      | inl e =>
          rw [e]
          exact List.nil_subset _
      | inr h => exact List.subset_cons_of_subset _ (List.subset_cons_of_subset _ (ih h))
  | case4 c rest hc _ hrest ih =>
      rw [List.mem_singleton.mp h]
      exact List.cons_subset_cons c (List.nil_subset rest)
  | case5 c rest hc _ first more hrest ih =>
      rw [hrest] at ih
      cases List.mem_cons.mp h with
      | inl e =>
          rw [e]
          exact List.cons_subset_cons c (ih List.mem_cons_self)
      | inr h => exact List.subset_cons_of_subset c (ih (List.mem_cons_of_mem _ h))

/-- A character that ends no line is the first of the line that follows it. -/
theorem lines_cons {c : Char} {rest line : Text} {more : List Text} (hc : c ≠ '\n')
    (hr : c = '\r' → rest.head? ≠ some '\n') (h : lines rest = line :: more) :
    lines (c :: rest) = (c :: line) :: more := by
  rw [lines]
  · rw [h]
  · exact hc
  · rintro rest' rfl rfl
    exact hr rfl rfl

/-- **A line is read back when a line feed follows it.** -/
theorem lines_append_feed : {line : Text} → '\n' ∉ line → line.getLast? ≠ some '\r' →
    (rest : Text) → lines (line ++ '\n' :: rest) = line :: lines rest
  | [], _, _, rest => lines_cons_feed rest
  | [c], hl, hr, rest => by
      have hc : c ≠ '\n' := fun e => hl (e ▸ List.mem_singleton_self c)
      exact lines_cons hc (fun e => absurd (by rw [e]; rfl) hr) (lines_cons_feed rest)
  | c :: d :: line, hl, hr, rest => by
      have hc : c ≠ '\n' := fun e => hl (e ▸ List.mem_cons_self)
      have hl' : '\n' ∉ d :: line := fun hm => hl (List.mem_cons_of_mem c hm)
      refine lines_cons hc (fun _ e => hl' ?_) (lines_append_feed hl' (by simpa using hr) rest)
      rw [Option.some.inj e]
      exact List.mem_cons_self

theorem lines_ne_nil (c : Char) (rest : Text) : lines (c :: rest) ≠ [] := by
  intro h
  rw [lines.eq_def] at h
  split at h
  · contradiction
  · cases h
  · cases h
  · split at h <;> cases h

/-- **A file can be cut at any line feed.** -/
theorem lines_append (t rest : Text) :
    lines (t ++ '\n' :: rest) = lines (t ++ ['\n']) ++ lines rest := by
  fun_induction lines t with
  | case1 => simp
  | case2 t ih => simp [ih]
  | case3 t ih => simp [lines, ih]
  | case4 c t hc _ ht _ =>
      have hnil : t = [] := by
        cases t with
        | nil => rfl
        | cons d t => exact absurd ht (lines_ne_nil d t)
      subst hnil
      by_cases hr : c = '\r'
      · subst hr
        simp [lines]
      · rw [List.singleton_append, List.singleton_append,
          lines_cons hc (fun e => absurd e hr) (lines_cons_feed rest),
          lines_cons hc (fun e => absurd e hr) (lines_cons_feed [])]
        rfl
  | case5 c t hc hfeed first more ht ih =>
      obtain ⟨d, t, rfl⟩ : ∃ d t', t = d :: t' := List.exists_cons_of_ne_nil fun e => by simp [e] at ht
      obtain ⟨line, others, hl⟩ := List.exists_cons_of_ne_nil (lines_ne_nil d (t ++ ['\n']))
      have hr : ∀ u : Text, c = '\r' → (d :: (t ++ u)).head? ≠ some '\n' := fun u e h =>
        hfeed t e (by rw [Option.some.inj h])
      rw [List.cons_append, List.cons_append, hl, List.cons_append] at ih
      rw [List.cons_append, List.cons_append, List.cons_append, List.cons_append,
        lines_cons hc (hr _) ih, lines_cons hc (hr _) hl]
      rfl

/-- **A line feed at the end is not a line.** -/
theorem lines_concat_feed {t : Text} (h : endsFirm t = true) : lines (t ++ ['\n']) = lines t := by
  have hmore {c : Char} {rest : Text} (hc : isSpace c = true) (hr : endsFirm (c :: rest) = true) :
      endsFirm rest = true := by
    cases rest with
    | nil => simp [endsFirm, hc] at hr
    | cons d rest => simpa [endsFirm] using hr
  fun_induction lines t with
  | case1 => cases h
  | case2 t ih =>
      have ht := ih (hmore (by decide) h)
      simp [ht]
  | case3 t ih =>
      have ht := ih (hmore (by decide) (hmore (by decide) h))
      simp [lines, ht]
  | case4 c t hc _ ht _ =>
      have hnil : t = [] := by
        cases t with
        | nil => rfl
        | cons d t => exact absurd ht (lines_ne_nil d t)
      subst hnil
      have hr : c ≠ '\r' := by
        rintro rfl
        exact absurd h (by decide)
      exact lines_cons hc (fun e => absurd e hr) (lines_cons_feed [])
  | case5 c t hc hfeed first more ht ih =>
      obtain ⟨d, t, rfl⟩ : ∃ d t', t = d :: t' := List.exists_cons_of_ne_nil fun e => by simp [e] at ht
      have hlast : endsFirm (d :: t) = true := by simpa [endsFirm] using h
      have hr : c = '\r' → (d :: (t ++ ['\n'])).head? ≠ some '\n' := fun e hd =>
        hfeed t e (by rw [Option.some.inj hd])
      exact lines_cons hc hr ((ih hlast).trans ht)

/-! ## Blocks of lines -/

/-- A text that reads as the given lines once a line feed ends it, whatever follows. -/
def LaidOut (t : Text) (rows : List Text) : Prop :=
  ∀ rest, lines (t ++ '\n' :: rest) = rows ++ lines rest

theorem laidOut_nil : LaidOut [] [[]] := lines_cons_feed

theorem laidOut_of_endsFirm {line : Text} (hl : '\n' ∉ line) (he : endsFirm line = true) :
    LaidOut line [line] := by
  intro rest
  refine lines_append_feed hl (fun e => ?_) rest
  rw [endsFirm, e] at he
  exact absurd he (by decide)

/-- A separator that leaves the given rows between two blocks. -/
def Separates (separator : Text) (gap : List Text) : Prop :=
  ∀ {t u : Text} {rows more : List Text}, LaidOut t rows → LaidOut u more →
    LaidOut (t ++ (separator ++ u)) (rows ++ (gap ++ more))

theorem separates_feed : Separates "\n" [] := by
  intro t u rows more ht hu rest
  show lines (t ++ '\n' :: u ++ '\n' :: rest) = rows ++ more ++ lines rest
  rw [List.append_assoc, List.cons_append, ht, hu, List.append_assoc]

theorem separates_blank : Separates "\n\n" [[]] := by
  intro t u rows more ht hu
  exact separates_feed ht (separates_feed laidOut_nil hu)

/-- **Blocks with a separator between them are laid out one after the other.** -/
theorem laidOut_joined {α : Type} {separator : Text} {gap : List Text} {f : α → Text}
    {g : α → List Text} (hsep : Separates separator gap) : {xs : List α} → xs ≠ [] →
      (∀ x ∈ xs, LaidOut (f x) (g x)) →
      LaidOut (joined separator (xs.map f)) (List.intercalate gap (xs.map g))
  | [], h, _ => absurd rfl h
  | [x], _, hx => by
      rw [joined, List.map_singleton, List.map_singleton, List.intercalate_singleton,
        List.intercalate_singleton]
      exact hx x List.mem_cons_self
  | x :: y :: xs, _, hx => by
      obtain ⟨hfirst, hmore⟩ := List.forall_mem_cons.mp hx
      have ih := laidOut_joined hsep (List.cons_ne_nil y xs) hmore
      rw [joined, List.map_cons, List.map_cons, List.map_cons, List.map_cons,
        List.intercalate_cons_cons, List.intercalate_cons_cons, List.append_assoc, List.append_assoc]
      exact hsep hfirst ih

end Text

end MergeScribe
