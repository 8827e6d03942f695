import MergeScribe.Proofs.Changelog.Title

/-!
# Entering a change in a file

What becomes of a file that a change is entered in. Main statement: it holds the document with the
change entered, in which each entry of the document before is where it was, and it is in form and
lists the change, so that entering the change again leaves it as it is (`addMerge_faithful`).
-/

namespace MergeScribe

open Text

/-! ## 1. All entries of a document -/

/-- The entries of a version, in the order of the file. -/
def Version.allEntries (v : Version) : List Entry :=
  v.entries ++ v.sections.flatMap Section.entries

/-- The entries of a changelog, in the order of the file. -/
def Changelog.allEntries (c : Changelog) : List Entry :=
  c.versions.flatMap Version.allEntries

namespace Version

theorem allEntries_ensureSection (v : Version) (name : Text) :
    (v.ensureSection name).allEntries = v.allEntries := by
  unfold ensureSection
  split
  · rfl
  · simp [allEntries]

/-- The new entry goes between others. -/
theorem allEntries_append (v : Version) (place : Place) :
    ∃ before after, v.allEntries = before ++ after ∧
      ∀ e, (v.append e place).allEntries = before ++ e :: after := by
  cases place with
  | direct => exact ⟨v.entries, v.sections.flatMap Section.entries, rfl, fun e => by
      simp [append, allEntries]⟩
  | under name =>
      obtain ⟨ss, s, ss', -, hsections, hf⟩ := updateFirst_eq_append (v.any_ensureSection name)
      refine ⟨(v.ensureSection name).entries ++ ss.flatMap Section.entries ++ s.entries,
        ss'.flatMap Section.entries, ?_, fun e => ?_⟩
      · rw [← v.allEntries_ensureSection name, allEntries, hsections]
        simp
      · have hs : (v.append e (.under name)).sections =
          ss ++ { s with entries := s.entries ++ [e] } :: ss' := hf _
        rw [allEntries, hs]
        simp [append]

end Version

namespace Changelog

theorem allEntries_ensureVersion (c : Changelog) (id : Text) :
    (c.ensureVersion id).allEntries = c.allEntries := by
  have hfresh : (Version.fresh id).allEntries = [] := rfl
  unfold ensureVersion
  split
  · rfl
  · obtain ⟨versions⟩ := c
    cases versions with
    | nil => simp [allEntries, insertFresh, hfresh]
    | cons v more =>
        unfold allEntries
        rw [insertFresh]
        split <;> simp [hfresh]

/-- The new entry goes between others. -/
theorem allEntries_enter (c : Changelog) (id : Text) (place : Place) :
    ∃ before after, c.allEntries = before ++ after ∧
      ∀ e, (c.enter id place e).allEntries = before ++ e :: after := by
  obtain ⟨vs, v, vs', -, hversions, hf⟩ := updateFirst_eq_append (c.any_ensureVersion id)
  obtain ⟨before, after, hv, he⟩ := v.allEntries_append place
  refine ⟨vs.flatMap Version.allEntries ++ before, after ++ vs'.flatMap Version.allEntries, ?_,
    fun e => ?_⟩
  · rw [← c.allEntries_ensureVersion id, allEntries, hversions]
    simp [hv]
  · have hs : (c.enter id place e).versions = vs ++ v.append e place :: vs' := hf _
    rw [allEntries, hs]
    simp [he]

/-- **At most one entry is added, and no other is lost or moved.** -/
theorem allEntries_append (c : Changelog) (id : Text) (place : Place) (e : Entry) :
    ∃ before added after, c.allEntries = before ++ after ∧
      (c.append id place e).2.allEntries = before ++ added ++ after ∧ added.length ≤ 1 := by
  cases h : Entry.listed (c.entriesAt id place) e.reference with
  | true =>
      rw [append_of_listed h]
      exact ⟨c.allEntries, [], [], by simp, by simp, Nat.zero_le 1⟩
  | false =>
      obtain ⟨before, after, hc, he⟩ := c.allEntries_enter id place
      rw [append_of_not_listed h]
      exact ⟨before, [e], after, hc, by simp [he], Nat.le_refl 1⟩

/-- A place lists what was entered there. -/
theorem listed_append {c : Changelog} {id : Text} {place : Place} {e : Entry} {r : Text}
    (hr : e.reference = some r) :
    Entry.listed ((c.append id place e).2.entriesAt id place) (some r) = true := by
  cases h : Entry.listed (c.entriesAt id place) e.reference with
  | true =>
      rw [append_of_listed h, ← hr]
      exact h
  | false =>
      rw [entriesAt_append h, if_pos ⟨rfl, rfl⟩]
      exact List.any_eq_true.mpr ⟨e, List.mem_append_right _ List.mem_cons_self, by simp [hr]⟩

/-! ## 2. Files -/

/-- **Entering a change in a file is faithful.** The file then holds the document with the change
entered: each entry is still there, in its place and in the order of the file, and at most one was
added. And it is in form: it is what is written for the document that it holds, and entering a
change of the same reference in the same section, whatever its title, leaves it as it is. -/
theorem addMerge_faithful (t : Text) {sectionName title r : Text}
    (hs : sectionName = noSection ∨ Phrase sectionName) (ht : startsFirm title = true)
    (hl : '\n' ∉ title) (hr : isReference r = true) :
    let out := addMerge t sectionName title r
    parse out = ((parse t).insertMerge sectionName title r).2 ∧
      (∀ id place, (parse t).entriesAt id place <+: (parse out).entriesAt id place) ∧
      (∃ before added after, (parse t).allEntries = before ++ after ∧
        (parse out).allEntries = before ++ added ++ after ∧ added.length ≤ 1) ∧
      (parse out).render = out ∧
      ∀ title', addMerge out sectionName title' r = out := by
  intro out
  have hparse : parse out = ((parse t).insertMerge sectionName title r).2 :=
    parse_addMerge t hs ht hl hr
  have hform : (parse out).render = out := by
    rw [hparse]
    rfl
  have hlisted : Entry.listed ((parse out).entriesAt Version.head (Place.ofSection sectionName))
      (some r) = true := by
    rw [hparse]
    refine listed_append ?_
    rw [Entry.referring_of_isReference _ hr]
  refine ⟨hparse, fun id place => ?_, ?_, hform, fun title' => ?_⟩
  · rw [hparse]
    exact entriesAt_isPrefix_append (parse t) _ _ _ id place
  · rw [hparse]
    exact allEntries_append (parse t) _ _ _
  · rw [addMerge_of_listed title' hr hlisted, hform]

/-- A title with markup and something like a reference in it. The second title is blank. -/
theorem addMerge_faithful_markup :
    let out : Text := "## HEAD\n\n### Bug Fixes\n\n  * Close &lt;b&gt; (@ann) (#2)\n"
    addMerge [] "Bug Fixes" "Close <b> (@ann)" "#2" = out ∧ (parse out).render = out ∧
      addMerge out "Bug Fixes" " " "#2" = out := by
  have hs : ("Bug Fixes" : Text) = noSection ∨ Phrase "Bug Fixes" := .inr (by decide +kernel)
  have ht : startsFirm "Close <b> (@ann)" = true := by decide +kernel
  have hl : '\n' ∉ ("Close <b> (@ann)" : Text) := by decide +kernel
  have hr : isReference "#2" = true := by decide +kernel
  have h := addMerge_faithful [] hs ht hl hr
  have hout : addMerge [] "Bug Fixes" "Close <b> (@ann)" "#2" =
      "## HEAD\n\n### Bug Fixes\n\n  * Close &lt;b&gt; (@ann) (#2)\n".toList := by decide +kernel
  simp only [hout] at h
  exact ⟨hout, h.2.2.2.1, h.2.2.2.2 " ".toList⟩

end Changelog

end MergeScribe
