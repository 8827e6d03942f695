import MergeScribe.Proofs.Changelog.Slot

/-!
# Titles, written and read back

A change is entered with a title from elsewhere, which may start with spaces or hold nothing else.
What its line is taken for then is not what was entered: spaces in front of the title are passed
over, and the reference of a blank title, which no text is in front of, is taken for the summary of
an entry without a reference. Main statement: the file with a title on one line entered holds the
document with what the title is taken for entered (`Changelog.parse_addMerge_of_oneLine`).
-/

namespace MergeScribe

open Text

/-! ## 1. Escaping and spaces -/

/-- Escaping makes no spaces, and it leaves them as they are. -/
theorem all_isSpace_escapeChar (c : Char) : (escapeChar c).all isSpace = isSpace c := by
  unfold escapeChar
  split
  · subst_vars
    decide
  split
  · subst_vars
    decide
  split
  · subst_vars
    decide
  · simp

theorem isBlank_escapeHtml (t : Text) : isBlank (escapeHtml t) = isBlank t := by
  unfold isBlank escapeHtml
  rw [List.all_flatMap]
  exact congrArg (t.all ·) (funext all_isSpace_escapeChar)

theorem trimStart_escapeHtml (t : Text) : trimStart (escapeHtml t) = escapeHtml (trimStart t) := by
  induction t with
  | nil => rfl
  | cons c t ih =>
      have hcons : escapeHtml (c :: t) = escapeChar c ++ escapeHtml t := rfl
      by_cases hc : isSpace c = true
      · have hb : isBlank (escapeChar c) = true := (all_isSpace_escapeChar c).trans hc
        rw [hcons, trimStart_append_of_isBlank hb, ih]
        simp [trimStart, hc]
      · have hs : startsFirm (c :: t) = true := by simpa using hc
        rw [trimStart_of_startsFirm hs, trimStart_of_startsFirm (startsFirm_escapeHtml hs)]

/-! ## 2. The line of a title -/

/-- What the line of a title is taken for. -/
def Entry.ofTitle (title r : Text) : Entry :=
  if isBlank title then ⟨"(" ++ r ++ ")", none⟩ else ⟨escapeHtml (trimStart title), some r⟩

section

variable {title r : Text}

theorem Entry.referring_of_isReference (summary : Text) (hr : isReference r = true) :
    Entry.referring summary r = ⟨summary, some r⟩ := by
  have hne : r.isEmpty = false := by simpa using isReference_ne_nil hr
  unfold Entry.referring
  rw [hne]
  rfl

theorem endsFirm_entryText (summary r : Text) : endsFirm (entryText ⟨summary, some r⟩) = true := by
  show endsFirm (summary ++ (" (" ++ r ++ ")")) = true
  rw [← List.append_assoc]
  exact endsFirm_append (u := ")") (by decide) _

/-- A reference in parentheses that nothing comes before is not taken off. -/
theorem ofText_parenthesized (hr : isReference r = true) :
    Entry.ofText ("(" ++ r ++ ")") = ⟨"(" ++ r ++ ")", none⟩ := by
  have hspace := space_not_mem_of_isReference hr
  have hnot : ¬ EndsInReference ("(" ++ r ++ ")") := by
    rintro ⟨before, r', -, -, e⟩
    have hm : ' ' ∈ ("(" ++ r ++ ")" : Text) := by
      rw [e]
      simp
    exact hspace (by simpa using hm)
  unfold Entry.ofText
  rw [splitReference_of_not hnot]

/-- **What the line of a title is taken for.** -/
theorem classify_referring (title : Text) (hr : isReference r = true) :
    classify (Entry.referring (escapeHtml title) r).render = .change (Entry.ofTitle title r) := by
  rw [Entry.referring_of_isReference _ hr, classify_render_of_endsFirm (endsFirm_entryText _ r)]
  show Line.change (Entry.ofText (trimStart (escapeHtml title ++ (" (" ++ r ++ ")")))) = _
  unfold Entry.ofTitle
  by_cases h : isBlank title = true
  · have hb : isBlank (escapeHtml title) = true := (isBlank_escapeHtml title).trans h
    have ht : trimStart (" (" ++ r ++ ")") = "(" ++ r ++ ")" := rfl
    rw [if_pos h, trimStart_append_of_isBlank hb, ht, ofText_parenthesized hr]
  · have hb : isBlank (escapeHtml title) = false :=
      (isBlank_escapeHtml title).trans (Bool.eq_false_iff.mpr h)
    have hne : trimStart (escapeHtml title) ≠ [] := fun e => by
      rw [trimStart_eq_nil_iff.mp e] at hb
      cases hb
    rw [if_neg h, trimStart_append hb, Entry.ofText, splitReference_append hne hr,
      trimStart_escapeHtml]

theorem laidOut_referring (hl : '\n' ∉ title) (hr : isReference r = true) :
    LaidOut (Entry.referring (escapeHtml title) r).render
      [(Entry.referring (escapeHtml title) r).render] := by
  rw [Entry.referring_of_isReference _ hr, Entry.render_eq]
  refine laidOut_of_endsFirm ?_ (endsFirm_append (endsFirm_entryText _ r) "  * ")
  simp [entryText, feed_not_mem_escapeHtml hl, feed_not_mem_of_isReference hr]

end

/-! ## 3. Files with a title entered -/

namespace Changelog

variable {t sectionName title r : Text}

/-- A change that the place lists already is not entered; the file is only put in form. -/
theorem addMerge_of_listed (title : Text) (hr : isReference r = true)
    (h : Entry.listed ((parse t).entriesAt Version.head (Place.ofSection sectionName)) (some r) = true) :
    addMerge t sectionName title r = (parse t).render := by
  unfold addMerge insertMerge
  rw [append_of_listed]
  rw [Entry.referring_of_isReference _ hr]
  exact h

/-- **The file with a title on one line entered holds the document with what the title is taken for
entered.** -/
theorem parse_addMerge_of_oneLine (hs : sectionName = noSection ∨ Phrase sectionName)
    (hl : '\n' ∉ title) (hr : isReference r = true)
    (h : Entry.listed ((parse t).entriesAt Version.head (Place.ofSection sectionName)) (some r) = false) :
    parse (addMerge t sectionName title r) =
      ((parse t).append Version.head (Place.ofSection sectionName) (Entry.ofTitle title r)).2 := by
  have hw : (Entry.referring (escapeHtml title) r).reference = some r := by
    rw [Entry.referring_of_isReference _ hr]
  refine parse_render_append (parse_canonical t) Version.isId_head (Place.canonical_ofSection hs)
    (by rw [hw]; exact h) ?_ (laidOut_referring hl hr) (classify_referring title hr)
  unfold Entry.ofTitle
  split
  · rfl
  · exact h

end Changelog

end MergeScribe
