import MergeScribe.Proofs.Changelog.Headings
import MergeScribe.Proofs.Changelog.Layout

/-!
# What a line is besides spaces

The ink of a text is what is left of it without its spaces. A line has the ink of its form, but that
`HEAD` may be in any case there (`inked_classify`), and a written line is the one that its form is
written as (`Changelog.written_lines_render`). Main statement: writing the form of a line changes
nothing in the line but spaces and the spelling of `HEAD` (`respelled_written`).
-/

namespace MergeScribe

open Text

/-! ## 1. Ink -/

/-- The characters of a text that are no spaces. -/
def Text.ink (t : Text) : Text :=
  t.filter fun c => !isSpace c

theorem Text.ink_append (t u : Text) : ink (t ++ u) = ink t ++ ink u :=
  List.filter_append ..

theorem Text.ink_cons_space {c : Char} (h : isSpace c = true) (t : Text) :
    ink (c :: t) = ink t := by
  simp [ink, h]

theorem Text.ink_eq_self {t : Text} (h : ∀ c ∈ t, isSpace c = false) : ink t = t := by
  refine List.filter_eq_self.mpr fun c hc => ?_
  rw [h c hc]
  rfl

/-- A line without ink is blank. -/
theorem Text.ink_eq_nil_iff {t : Text} : ink t = [] ↔ isBlank t = true := by
  rw [ink, List.filter_eq_nil_iff, isBlank, List.all_eq_true]
  simp

theorem Text.ink_trimStart (t : Text) : ink (trimStart t) = ink t := by
  induction t with
  | nil => rfl
  | cons c t ih =>
      by_cases hc : isSpace c = true
      · have hskip : trimStart (c :: t) = trimStart t := List.dropWhile_cons_of_pos hc
        rw [hskip, ih, ink_cons_space hc]
      · have hstay : trimStart (c :: t) = c :: t := List.dropWhile_cons_of_neg hc
        rw [hstay]

theorem Text.ink_trimEnd (t : Text) : ink (trimEnd t) = ink t := by
  induction t with
  | nil => rfl
  | cons c t ih =>
      have hcons : ink (c :: t) = ink [c] ++ ink t := ink_append [c] t
      by_cases h : trimEnd t = []
      · rw [h] at ih
        have hone : ink (if isSpace c then [] else [c]) = ink [c] := by
          split
          · rename_i hc
            exact (ink_cons_space hc []).symm
          · rfl
        rw [trimEnd_cons_of_eq_nil h, hone, hcons, ← ih]
        exact (List.append_nil _).symm
      · rw [trimEnd_cons_of_ne_nil h, hcons, ← ih]
        exact ink_append [c] _

theorem Text.ink_of_afterSpaces? {t rest : Text} (h : afterSpaces? t = some rest) :
    ink t = ink rest := by
  obtain ⟨gap, -, hb, rfl⟩ := exists_gap_of_afterSpaces? h
  rw [ink_append, ink_eq_nil_iff.mpr hb, List.nil_append]

/-- What is read after a mark has the ink of the rest of the line. -/
theorem ink_of_content? {mark line t : Text} (h : content? mark line = some t) :
    ink line = ink mark ++ ink t := by
  obtain ⟨rest, hr, h⟩ := Option.bind_eq_some_iff.mp h
  obtain ⟨after, ha, hs⟩ := Option.bind_eq_some_iff.mp hr
  split at h
  · cases h
  · rw [after?_eq_some_iff.mp ha, ink_append, ink_of_afterSpaces? hs, ← Option.some.inj h,
      ink_trimEnd]

/-! ## 2. Version headings -/

theorem HeadingTail.ink_eq {tail : Text} {date : Option Text} (h : HeadingTail tail date) :
    ink tail = ink (dateTail date) := by
  cases h with
  | undated hb => exact ink_eq_nil_iff.mpr hb
  | @dated gap gap' date hne hb hne' hb' hd =>
      have htail : ink (dateTail (some (trim date))) = ink " / " ++ ink (trim date) :=
        ink_append " / " (trim date)
      have hslash : ink ('/' :: (gap' ++ date)) = ink "/" ++ ink (gap' ++ date) :=
        ink_append "/" (gap' ++ date)
      rw [ink_append, hslash, ink_append, ink_eq_nil_iff.mpr hb, ink_eq_nil_iff.mpr hb', htail,
        trim, ink_trimEnd, ink_trimStart]
      rfl

/-- A version heading is its mark, a word for the id, and the date, with spaces between them. -/
theorem Heads.ink_eq {line id : Text} {date : Option Text} (h : Heads line id date) :
    ∃ word, versionId? word = some id ∧ ink line = "##" ++ (word ++ ink (dateTail date)) := by
  obtain ⟨hid, gap, word, tail, -, hb, hword, htail, rfl⟩ := h
  obtain ⟨hread, -, hfirm⟩ := hword.versionId? hid
  refine ⟨word, hread, ?_⟩
  rw [ink_append, ink_append, ink_append, ink_eq_nil_iff.mpr hb, ink_eq_self hfirm, htail.ink_eq]
  rfl

/-! ## 3. Any line -/

/-- The ink that a line of a form can have. -/
inductive Line.Inked : Line → Text → Prop
  | version {word id : Text} {date : Option Text} (h : versionId? word = some id) :
      Inked (.version id date) ("##" ++ (word ++ ink (dateTail date)))
  | heading (name : Text) : Inked (.heading name) ("###" ++ ink name)
  | change (e : Entry) : Inked (.change e) ("*" ++ ink (entryText e))
  | blank : Inked .blank []
  | other (content : Text) : Inked (.other content) (ink content)

/-- **A line has the ink of its form.** -/
theorem inked_classify (line : Text) : (classify line).Inked (ink line) := by
  unfold classify
  split
  · rename_i id date h
    obtain ⟨word, hword, hink⟩ := (versionHeading?_eq_some_iff.mp h).ink_eq
    rw [hink]
    exact .version hword
  split
  · rename_i name h
    rw [ink_of_content? h]
    exact .heading name
  split
  · rename_i text h
    have hink : ink line = "*" ++ ink (entryText (Entry.ofText text)) := by
      rw [← ink_trimStart, ink_of_content? h, entryText_ofText]
      rfl
    rw [hink]
    exact .change _
  split
  · rename_i hb
    rw [ink_eq_nil_iff.mpr hb]
    exact .blank
  · have hink : ink line = ink (trim line) := by rw [trim, ink_trimEnd, ink_trimStart]
    rw [hink]
    exact .other _

/-- **Exactly a line without ink is taken for a blank one.** -/
theorem classify_eq_blank_iff {line : Text} : classify line = .blank ↔ isBlank line = true := by
  constructor
  · intro h
    have hinked := inked_classify line
    rw [h] at hinked
    generalize hink : ink line = inked at hinked
    cases hinked
    exact ink_eq_nil_iff.mp hink
  · intro h
    have hnone := ink_eq_nil_iff.mpr h
    unfold classify
    split
    · rename_i id date hv
      obtain ⟨word, -, hink⟩ := (versionHeading?_eq_some_iff.mp hv).ink_eq
      rw [hnone] at hink
      cases hink
    split
    · rename_i name hs
      have hink := ink_of_content? hs
      rw [hnone] at hink
      cases hink
    split
    · rename_i text hc
      have hink := ink_of_content? hc
      rw [ink_trimStart, hnone] at hink
      cases hink
    rw [if_pos h]

/-! ## 4. Written lines -/

/-- The line that a form is written as. -/
def Line.written : Line → Text
  | .version id date => Version.renderHeading ⟨id, date, [], []⟩
  | .heading name => "### " ++ name
  | .change e => e.render
  | .blank => []
  | .other content => content

/-- Two lines that differ in nothing but spaces and the spelling of `HEAD`, which is in upper case
in the second. -/
inductive Respelled (line line' : Text) : Prop
  | spaces (h : ink line' = ink line)
  | head {word rest : Text} (hword : lowerAscii word = "head".toList)
      (before : ink line = "##" ++ (word ++ rest))
      (after : ink line' = "##" ++ (Version.head ++ rest))

/-- **Writing the form of a line changes nothing in it but spaces and the spelling of `HEAD`.** -/
theorem respelled_written (line : Text) : Respelled line (classify line).written := by
  have hinked := inked_classify line
  generalize hink : ink line = inked at hinked
  generalize classify line = form at hinked
  cases hinked with
  | @version word id date hword =>
      have hid : ink id = id := ink_eq_self (isId_of_versionId? hword).not_isSpace
      have hwritten : ink (Line.written (.version id date)) =
          "##" ++ (id ++ ink (dateTail date)) := by
        have hheading : Line.written (.version id date) = "##" ++ ' ' :: (id ++ dateTail date) :=
          renderHeading_eq _
        rw [hheading, ink_append, ink_cons_space (by decide), ink_append, hid]
        rfl
      rcases versionId?_eq_some hword with rfl | ⟨hcase, rfl⟩
      · exact .spaces (hwritten.trans hink.symm)
      · exact .head hcase hink hwritten
  | heading name =>
      refine .spaces ?_
      rw [hink, Line.written, ink_append]
      rfl
  | change e =>
      refine .spaces ?_
      rw [hink, Line.written, Entry.render_eq]
      rfl
  | blank => exact .spaces hink.symm
  | other content => exact .spaces hink.symm

/-- A row that is written as its form is. -/
def Written (row : Text) : Prop :=
  (classify row).written = row

theorem written_nil : Written [] := by
  rw [Written, classify_nil]
  rfl

theorem written_of_classify {row : Text} {line : Line} (h : classify row = line)
    (hw : line.written = row) : Written row := by
  rw [Written, h, hw]

/-- What holds of the members of all blocks and of what stands between them holds of all members. -/
theorem forall_mem_intercalate {α : Type} {P : α → Prop} {separator : List α}
    (hs : ∀ a ∈ separator, P a) : {blocks : List (List α)} →
      (∀ block ∈ blocks, ∀ a ∈ block, P a) → ∀ a ∈ List.intercalate separator blocks, P a
  | [], _ => List.forall_mem_nil _
  | [block], h => by
      rw [List.intercalate_singleton]
      exact h block List.mem_cons_self
  | block :: next :: blocks, h => by
      obtain ⟨hfirst, hrest⟩ := List.forall_mem_cons.mp h
      rw [List.intercalate_cons_cons, List.append_assoc, List.forall_mem_append,
        List.forall_mem_append]
      exact ⟨hfirst, hs, forall_mem_intercalate hs hrest⟩

theorem written_separator : ∀ row ∈ [([] : Text)], Written row :=
  List.forall_mem_singleton.mpr written_nil

theorem Entry.written_blockRows {entries : List Entry} (h : ∀ e ∈ entries, e.Canonical) :
    ∀ row ∈ Entry.blockRows entries, Written row := by
  unfold Entry.blockRows
  split
  · exact List.forall_mem_nil _
  · rw [List.forall_mem_cons, List.forall_mem_map]
    exact ⟨written_nil, fun e he => written_of_classify (classify_render (h e he)) rfl⟩

theorem Section.written_rows {s : Section} (h : s.Canonical) : ∀ row ∈ s.rows, Written row := by
  rw [Section.rows, List.forall_mem_cons]
  exact ⟨written_of_classify (classify_sectionHeading h.name) rfl,
    Entry.written_blockRows h.entries⟩

theorem Section.written_blockRows {sections : List Section} (h : ∀ s ∈ sections, s.Canonical) :
    ∀ row ∈ Section.blockRows sections, Written row := by
  unfold Section.blockRows
  split
  · exact List.forall_mem_nil _
  · rw [List.forall_mem_cons]
    refine ⟨written_nil, forall_mem_intercalate written_separator ?_⟩
    rw [List.forall_mem_map]
    exact fun s hs => Section.written_rows (h s hs)

theorem Version.written_rows {v : Version} (h : v.Canonical) : ∀ row ∈ v.rows, Written row := by
  rw [Version.rows, List.forall_mem_cons, List.forall_mem_append]
  exact ⟨written_of_classify (classify_renderHeading h.id h.date) rfl,
    Entry.written_blockRows h.entries, Section.written_blockRows h.sections⟩

/-- **The rows of a canonical changelog are what their forms are written as.** -/
theorem Changelog.written_rows {c : Changelog} (h : c.Canonical) : ∀ row ∈ c.rows, Written row := by
  refine forall_mem_intercalate written_separator ?_
  rw [List.forall_mem_map]
  exact fun v hv => Version.written_rows (h.versions v hv)

/-- **The lines of a written changelog are what their forms are written as.** -/
theorem Changelog.written_lines_render {c : Changelog} (h : c.Canonical) :
    ∀ row ∈ lines c.render, Written row := by
  by_cases hne : c.versions = []
  · obtain ⟨versions⟩ := c
    subst hne
    exact List.forall_mem_singleton.mpr written_nil
  · rw [lines_render h hne]
    exact written_rows h

end MergeScribe
