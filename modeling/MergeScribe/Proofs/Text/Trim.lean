import Mathlib.Data.List.TakeWhile
import MergeScribe.Text.Basic

/-!
# Firm ends

A text is firm at an end where it has a character that is no space. Trimming makes both ends firm,
unless nothing is left, and it leaves a text with firm ends alone. Main statements: what trimming
keeps (`trimStart_isSuffix`, `trimEnd_isPrefix`), that what is left is firm (`startsFirm_trimStart`,
`endsFirm_trimEnd`), and that phrases are what is trimmed already
(`phrase_iff_trim`).
-/

namespace MergeScribe

namespace Text

/-! ## 1. Firm ends -/

/-- Whether the text starts with a character that is no space. The empty text does not. -/
def startsFirm (t : Text) : Bool :=
  t.head?.any fun c => !isSpace c

/-- Whether the text ends in a character that is no space. The empty text does not. -/
def endsFirm (t : Text) : Bool :=
  t.getLast?.any fun c => !isSpace c

/-- A phrase: text on one line that is firm at both ends, and so not empty. -/
structure Phrase (t : Text) : Prop where
  starts : startsFirm t = true
  ends : endsFirm t = true
  oneLine : '\n' ∉ t

instance (t : Text) : Decidable (Phrase t) :=
  decidable_of_iff (startsFirm t = true ∧ endsFirm t = true ∧ '\n' ∉ t)
    ⟨fun ⟨hs, he, hl⟩ => ⟨hs, he, hl⟩, fun h => ⟨h.starts, h.ends, h.oneLine⟩⟩

@[simp] theorem startsFirm_nil : startsFirm [] = false := rfl

@[simp] theorem startsFirm_cons (c : Char) (t : Text) : startsFirm (c :: t) = !isSpace c := rfl

theorem startsFirm_iff {t : Text} :
    startsFirm t = true ↔ ∃ c rest, t = c :: rest ∧ isSpace c = false := by
  cases t with
  | nil => simp
  | cons c rest => simp

theorem ne_nil_of_startsFirm {t : Text} (h : startsFirm t = true) : t ≠ [] := by
  rintro rfl
  cases h

theorem startsFirm_append {t : Text} (h : startsFirm t = true) (u : Text) :
    startsFirm (t ++ u) = true := by
  obtain ⟨c, rest, rfl, hc⟩ := startsFirm_iff.mp h
  simp [hc]

@[simp] theorem endsFirm_concat (t : Text) (c : Char) : endsFirm (t ++ [c]) = !isSpace c := by
  simp [endsFirm]

theorem endsFirm_iff {t : Text} :
    endsFirm t = true ↔ ∃ before c, t = before ++ [c] ∧ isSpace c = false := by
  rcases List.eq_nil_or_concat t with rfl | ⟨before, c, rfl⟩
  · simp [endsFirm]
  · constructor
    · intro h
      exact ⟨before, c, by simp, by simpa using h⟩
    · rintro ⟨before', c', e, hc⟩
      rw [e, endsFirm_concat, hc]
      rfl

theorem endsFirm_append {u : Text} (h : endsFirm u = true) (t : Text) :
    endsFirm (t ++ u) = true := by
  obtain ⟨before, c, rfl, hc⟩ := endsFirm_iff.mp h
  rw [← List.append_assoc, endsFirm_concat, hc]
  rfl

theorem endsFirm_cons {t : Text} (h : endsFirm t = true) (c : Char) : endsFirm (c :: t) = true :=
  endsFirm_append h [c]

/-! ## 2. Trimming at the start -/

theorem trimStart_isSuffix (t : Text) : trimStart t <:+ t :=
  List.dropWhile_suffix _

theorem trimStart_of_startsFirm {t : Text} (h : startsFirm t = true) : trimStart t = t := by
  obtain ⟨c, rest, rfl, hc⟩ := startsFirm_iff.mp h
  simp [trimStart, hc]

theorem trimStart_eq_nil_iff {t : Text} : trimStart t = [] ↔ isBlank t = true :=
  List.dropWhile_eq_nil_iff.trans List.all_eq_true.symm

theorem startsFirm_trimStart {t : Text} (h : trimStart t ≠ []) :
    startsFirm (trimStart t) = true := by
  induction t with
  | nil => exact absurd rfl h
  | cons c rest ih =>
      by_cases hc : isSpace c = true
      · have e : trimStart (c :: rest) = trimStart rest := by simp [trimStart, hc]
        rw [e] at h ⊢
        exact ih h
      · simp [trimStart, hc]

theorem isBlank_append (t u : Text) : isBlank (t ++ u) = (isBlank t && isBlank u) :=
  List.all_append

theorem isBlank_cons (c : Char) (t : Text) : isBlank (c :: t) = (isSpace c && isBlank t) :=
  List.all_cons

theorem trimStart_append_of_isBlank {t : Text} (h : isBlank t = true) (u : Text) :
    trimStart (t ++ u) = trimStart u :=
  List.dropWhile_append_of_pos (List.all_eq_true.mp h)

theorem trimStart_append {t : Text} (h : isBlank t = false) (u : Text) :
    trimStart (t ++ u) = trimStart t ++ u := by
  have hne : trimStart t ≠ [] := fun e => by
    rw [trimStart_eq_nil_iff.mp e] at h
    cases h
  unfold trimStart at hne ⊢
  rw [List.dropWhile_append, if_neg (by simpa using hne)]

theorem endsFirm_trimStart {t : Text} (h : endsFirm t = true) : endsFirm (trimStart t) = true := by
  obtain ⟨before, c, rfl, hc⟩ := endsFirm_iff.mp h
  by_cases hb : isBlank before = true
  · rw [trimStart_append_of_isBlank hb, trimStart_of_startsFirm (by simpa using hc)]
    simpa [endsFirm] using hc
  · rw [trimStart_append (Bool.eq_false_iff.mpr hb), endsFirm_concat, hc]
    rfl

theorem startsFirm_append_of_isBlank {t : Text} (hne : t ≠ []) (hb : isBlank t = true) (u : Text) :
    startsFirm (t ++ u) = false := by
  obtain ⟨c, more, rfl⟩ := List.exists_cons_of_ne_nil hne
  have hc : isSpace c = true := List.all_eq_true.mp hb c List.mem_cons_self
  simp [hc]

theorem isBlank_of_startsFirm {t : Text} (h : startsFirm t = true) : isBlank t = false := by
  obtain ⟨c, more, rfl, hc⟩ := startsFirm_iff.mp h
  simp [isBlank, hc]

/-- A word ends where the first space stands. -/
theorem span_word {word tail : Text} (hw : ∀ c ∈ word, isSpace c = false)
    (ht : startsFirm tail = false) :
    (word ++ tail).takeWhile (fun c => !isSpace c) = word ∧
      (word ++ tail).dropWhile (fun c => !isSpace c) = tail := by
  have hall : ∀ c ∈ word, (!isSpace c) = true := fun c hc => by simp [hw c hc]
  rw [List.takeWhile_append_of_pos hall, List.dropWhile_append_of_pos hall]
  cases tail with
  | nil => exact ⟨List.append_nil word, rfl⟩
  | cons c more =>
      have hc : isSpace c = true := by simpa using ht
      simp [hc]

/-! ## 3. Trimming at the end -/

theorem trimEnd_cons_of_ne_nil {t : Text} (h : trimEnd t ≠ []) (c : Char) :
    trimEnd (c :: t) = c :: trimEnd t := by
  rw [trimEnd]
  split
  · contradiction
  · rfl

theorem trimEnd_cons_of_eq_nil {t : Text} (h : trimEnd t = []) (c : Char) :
    trimEnd (c :: t) = if isSpace c then [] else [c] := by
  rw [trimEnd, h]

theorem trimEnd_isPrefix : (t : Text) → trimEnd t <+: t
  | [] => List.prefix_rfl
  | c :: rest => by
      by_cases h : trimEnd rest = []
      · rw [trimEnd_cons_of_eq_nil h]
        split
        · exact List.nil_prefix
        · exact ⟨rest, rfl⟩
      · rw [trimEnd_cons_of_ne_nil h]
        exact (List.prefix_cons_inj c).mpr (trimEnd_isPrefix rest)

theorem trimEnd_of_isBlank {t : Text} (h : isBlank t = true) : trimEnd t = [] := by
  induction t with
  | nil => rfl
  | cons c t ih =>
      obtain ⟨hc, ht⟩ := Bool.and_eq_true_iff.mp ((isBlank_cons c t).symm.trans h)
      rw [trimEnd_cons_of_eq_nil (ih ht), if_pos hc]

theorem trimEnd_append_of_isBlank {space : Text} (h : isBlank space = true) (t : Text) :
    trimEnd (t ++ space) = trimEnd t := by
  induction t with
  | nil => exact trimEnd_of_isBlank h
  | cons c t ih => rw [List.cons_append, trimEnd, trimEnd, ih]

theorem endsFirm_trimEnd : {t : Text} → trimEnd t ≠ [] → endsFirm (trimEnd t) = true
  | [], h => absurd rfl h
  | c :: rest, h => by
      by_cases hr : trimEnd rest = []
      · rw [trimEnd_cons_of_eq_nil hr] at h ⊢
        by_cases hc : isSpace c = true
        · simp [hc] at h
        · simp [hc, endsFirm]
      · rw [trimEnd_cons_of_ne_nil hr]
        exact endsFirm_cons (endsFirm_trimEnd hr) c

theorem trimEnd_of_endsFirm : {t : Text} → endsFirm t = true → trimEnd t = t
  | [], _ => rfl
  | [c], h => by
      have hc : isSpace c = false := by simpa [endsFirm] using h
      simp [trimEnd, hc]
  | c :: d :: rest, h => by
      have hr : trimEnd (d :: rest) = d :: rest := trimEnd_of_endsFirm (by simpa [endsFirm] using h)
      rw [trimEnd_cons_of_ne_nil (by simp [hr]), hr]

theorem startsFirm_trimEnd {t : Text} (h : startsFirm t = true) :
    startsFirm (trimEnd t) = true := by
  obtain ⟨c, rest, rfl, hc⟩ := startsFirm_iff.mp h
  by_cases hr : trimEnd rest = []
  · rw [trimEnd_cons_of_eq_nil hr]
    simp [hc]
  · rw [trimEnd_cons_of_ne_nil hr]
    simp [hc]

/-- What is trimmed stays as it is. -/
theorem trim_trim (t : Text) : trim (trim t) = trim t := by
  by_cases h : trimStart t = []
  · have hnil : trim t = [] := by rw [trim, h, trimEnd]
    rw [hnil]
    rfl
  · have hstart : startsFirm (trim t) = true := startsFirm_trimEnd (startsFirm_trimStart h)
    have hend : endsFirm (trim t) = true := endsFirm_trimEnd (ne_nil_of_startsFirm hstart)
    rw [trim, trimStart_of_startsFirm hstart, trimEnd_of_endsFirm hend]

/-- Trimming takes all of a blank text and leaves something of any other. -/
theorem isBlank_trim (t : Text) : isBlank (trim t) = isBlank t := by
  by_cases h : isBlank t = true
  · rw [trim, trimStart_eq_nil_iff.mpr h, h]
    rfl
  · have hne : trimStart t ≠ [] := fun e => h (trimStart_eq_nil_iff.mp e)
    rw [trim, isBlank_of_startsFirm (startsFirm_trimEnd (startsFirm_trimStart hne)),
      Bool.eq_false_iff.mpr h]

/-- Spaces at the end are trimmed. -/
theorem trim_append_of_isBlank {space : Text} (h : isBlank space = true) (t : Text) :
    trim (t ++ space) = trim t := by
  by_cases ht : isBlank t = true
  · rw [trim, trim, trimStart_append_of_isBlank ht, trimStart_eq_nil_iff.mpr h,
      trimStart_eq_nil_iff.mpr ht]
  · rw [trim, trim, trimStart_append (Bool.eq_false_iff.mpr ht), trimEnd_append_of_isBlank h]

/-! ## 4. Phrases -/

/-- A text without spaces, if there is any of it, is a phrase. -/
theorem phrase_of_not_isSpace {t : Text} (hne : t ≠ []) (h : ∀ c ∈ t, isSpace c = false) :
    Phrase t where
  starts := startsFirm_iff.mpr (by
    obtain ⟨c, rest, rfl⟩ := List.exists_cons_of_ne_nil hne
    exact ⟨c, rest, rfl, h c List.mem_cons_self⟩)
  ends := endsFirm_iff.mpr ⟨_, _, (List.dropLast_concat_getLast hne).symm,
    h _ (List.getLast_mem hne)⟩
  oneLine hl := absurd (h _ hl) (by decide)

/-- **What trimming leaves of a line is a phrase, or nothing.** -/
theorem phrase_trimEnd {t : Text} (hs : startsFirm t = true) (hl : '\n' ∉ t) :
    Phrase (trimEnd t) where
  starts := startsFirm_trimEnd hs
  ends := endsFirm_trimEnd (ne_nil_of_startsFirm (startsFirm_trimEnd hs))
  oneLine := fun h => hl ((trimEnd_isPrefix t).subset h)

/-- **A phrase is text on one line that is not empty and trimmed already.** -/
theorem phrase_iff_trim {t : Text} : Phrase t ↔ t ≠ [] ∧ trim t = t ∧ '\n' ∉ t := by
  constructor
  · intro h
    refine ⟨ne_nil_of_startsFirm h.starts, ?_, h.oneLine⟩
    rw [trim, trimStart_of_startsFirm h.starts, trimEnd_of_endsFirm h.ends]
  · rintro ⟨hne, ht, hl⟩
    have hs : trimStart t ≠ [] := by
      intro h
      rw [trim, h] at ht
      exact hne ht.symm
    have hstart := startsFirm_trimEnd (startsFirm_trimStart hs)
    have hend := endsFirm_trimEnd (ne_nil_of_startsFirm hstart)
    rw [← trim, ht] at hstart hend
    exact ⟨hstart, hend, hl⟩

end Text

end MergeScribe
