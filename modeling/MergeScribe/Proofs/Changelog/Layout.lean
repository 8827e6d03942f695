import MergeScribe.Changelog.Render
import MergeScribe.Proofs.Changelog.Forms
import MergeScribe.Proofs.Text.Lines

/-!
# The lines of a written changelog

A written changelog is described twice: by its rows, the lines of the file with the blank ones among
them, and by its outline, which says what the lines that are not blank are taken for. Main
statements: the file of a canonical changelog has its rows as lines (`Changelog.lines_render`), and
these are taken for its outline (`Changelog.formsOf_lines_render`).
-/

namespace MergeScribe

open Text

/-! ## 1. Rows -/

namespace Entry

/-- Entries one to a row, after a blank row. -/
def blockRows (entries : List Entry) : List Text :=
  if entries.isEmpty then [] else [] :: entries.map Entry.render

/-- The changes that entries are read from. -/
def outline (entries : List Entry) : List Line :=
  entries.map .change

end Entry

namespace Section

/-- A section: its heading, and its entries after a blank row. -/
def rows (s : Section) : List Text :=
  ("### " ++ s.name) :: Entry.blockRows s.entries

/-- Sections a blank row apart, after a blank row. -/
def blockRows (sections : List Section) : List Text :=
  if sections.isEmpty then [] else [] :: List.intercalate [[]] (sections.map rows)

/-- The heading and the changes that a section is read from. -/
def outline (s : Section) : List Line :=
  .heading s.name :: Entry.outline s.entries

end Section

namespace Version

/-- A version: its heading, its entries, its sections. -/
def rows (v : Version) : List Text :=
  v.renderHeading :: (Entry.blockRows v.entries ++ Section.blockRows v.sections)

/-- The headings and the changes that a version is read from. -/
def outline (v : Version) : List Line :=
  .version v.id v.date :: (Entry.outline v.entries ++ v.sections.flatMap Section.outline)

end Version

namespace Changelog

/-- Versions a blank row apart. -/
def rows (c : Changelog) : List Text :=
  List.intercalate [[]] (c.versions.map Version.rows)

/-- The headings and the changes that a changelog is read from. -/
def outline (c : Changelog) : List Line :=
  c.versions.flatMap Version.outline

end Changelog

/-! ## 2. The file has its rows as lines -/

theorem intercalate_nil_map_singleton {α β : Type} (f : α → β) :
    (xs : List α) → List.intercalate [] (xs.map fun x => [f x]) = xs.map f
  | [] => rfl
  | [x] => List.intercalate_singleton
  | x :: y :: xs => by
      have ih := intercalate_nil_map_singleton f (y :: xs)
      rw [List.map_cons] at ih
      rw [List.map_cons, List.map_cons, List.intercalate_cons_cons, ih]
      rfl

theorem Entry.endsFirm_render {e : Entry} (h : e.Canonical) : endsFirm e.render = true := by
  rw [Entry.render_eq]
  exact endsFirm_append (phrase_entryText h).ends "  * "

theorem Entry.laidOut_render {e : Entry} (h : e.Canonical) : LaidOut e.render [e.render] := by
  refine laidOut_of_endsFirm ?_ (Entry.endsFirm_render h)
  rw [Entry.render_eq]
  simp [(phrase_entryText h).oneLine]

/-- Entries after a blank line, or nothing. -/
theorem Entry.laidOut_renderBlock {t : Text} {rows : List Text} (ht : LaidOut t rows)
    {entries : List Entry} (he : ∀ e ∈ entries, e.Canonical) :
    LaidOut (t ++ Entry.renderBlock entries) (rows ++ Entry.blockRows entries) := by
  unfold Entry.renderBlock Entry.blockRows
  cases entries with
  | nil => simpa using ht
  | cons e more =>
      have hblock := laidOut_joined separates_feed (List.cons_ne_nil e more)
        fun e' he' => Entry.laidOut_render (he e' he')
      rw [intercalate_nil_map_singleton] at hblock
      exact separates_blank ht hblock

theorem Section.laidOut_heading {name : Text} (h : Phrase name) :
    LaidOut ("### " ++ name) ["### " ++ name] := by
  refine laidOut_of_endsFirm ?_ (endsFirm_append h.ends _)
  simp [h.oneLine]

theorem Section.laidOut_render {s : Section} (h : s.Canonical) : LaidOut s.render s.rows :=
  Entry.laidOut_renderBlock (Section.laidOut_heading h.name) h.entries

/-- The heading of a section is on a line of its own. -/
theorem Section.exists_render_append (s : Section) (rest : Text) :
    ∃ after, s.render ++ '\n' :: rest = "### " ++ s.name ++ '\n' :: after := by
  unfold Section.render Entry.renderBlock
  split
  · exact ⟨rest, by rw [List.append_nil]⟩
  · exact ⟨_, List.append_assoc _ _ _⟩

theorem Section.laidOut_renderBlock {t : Text} {rows : List Text} (ht : LaidOut t rows)
    {sections : List Section} (hs : ∀ s ∈ sections, s.Canonical) :
    LaidOut (t ++ Section.renderBlock sections) (rows ++ Section.blockRows sections) := by
  unfold Section.renderBlock Section.blockRows
  cases sections with
  | nil => simpa using ht
  | cons s more =>
      exact separates_blank ht (laidOut_joined separates_blank (List.cons_ne_nil s more)
        fun s' hs' => Section.laidOut_render (hs s' hs'))

theorem endsFirm_of_isId {id : Text} (h : Version.IsId id) : endsFirm id = true := by
  rcases List.eq_nil_or_concat id with rfl | ⟨before, c, rfl⟩
  · exact absurd rfl h.ne_nil
  · simp [h.not_isSpace c (by simp)]

section Heading

variable {v : Version} (hid : Version.IsId v.id) (hd : ∀ d ∈ v.date, Phrase d)

include hid hd

theorem Version.feed_not_mem_renderHeading : '\n' ∉ v.renderHeading := by
  have hline : '\n' ∉ v.id := fun hm => absurd (hid.not_isSpace '\n' hm) (by decide)
  rw [renderHeading_eq]
  cases hdate : v.date with
  | none => simp [dateTail, hline]
  | some d => simp [dateTail, hline, (hd d hdate).oneLine]

theorem Version.endsFirm_renderHeading : endsFirm v.renderHeading = true := by
  unfold Version.renderHeading
  split
  · rename_i d hdate
    exact endsFirm_append (hd d hdate).ends _
  · exact endsFirm_append (endsFirm_of_isId hid) _

theorem Version.laidOut_renderHeading : LaidOut v.renderHeading [v.renderHeading] :=
  laidOut_of_endsFirm (Version.feed_not_mem_renderHeading hid hd)
    (Version.endsFirm_renderHeading hid hd)

end Heading

theorem Version.laidOut_render {v : Version} (h : v.Canonical) : LaidOut v.render v.rows :=
  Section.laidOut_renderBlock
    (Entry.laidOut_renderBlock (Version.laidOut_renderHeading h.id h.date) h.entries) h.sections

/-- **The lines of a written changelog are its rows.** Without versions there is one blank line. -/
theorem Changelog.lines_render {c : Changelog} (h : c.Canonical) (hne : c.versions ≠ []) :
    lines c.render = c.rows := by
  have hlaid := laidOut_joined separates_blank hne fun v hv => Version.laidOut_render (h.versions v hv)
  exact (hlaid []).trans (List.append_nil _)

/-! ## 3. The rows are taken for the outline -/

/-- What rows are taken for, blank ones apart. -/
def formsOf (rows : List Text) : List Line :=
  (rows.map classify).filter fun line => line ≠ .blank

theorem formsOf_cons_of_classify {row : Text} {line : Line} (h : classify row = line)
    (hb : line ≠ .blank) (rows : List Text) : formsOf (row :: rows) = line :: formsOf rows := by
  simp [formsOf, h, hb]

theorem formsOf_cons_nil (rows : List Text) : formsOf ([] :: rows) = formsOf rows := by
  simp [formsOf, classify_nil]

theorem formsOf_append (rows more : List Text) :
    formsOf (rows ++ more) = formsOf rows ++ formsOf more := by
  simp [formsOf]

theorem formsOf_intercalate_blank :
    (blocks : List (List Text)) → formsOf (List.intercalate [[]] blocks) = blocks.flatMap formsOf
  | [] => rfl
  | [rows] => by
      rw [List.intercalate_singleton, List.flatMap_singleton]
  | rows :: more :: blocks => by
      rw [List.intercalate_cons_cons, List.flatMap_cons, List.append_assoc, List.singleton_append,
        formsOf_append, formsOf_cons_nil, formsOf_intercalate_blank (more :: blocks)]

theorem formsOf_render : {entries : List Entry} → (∀ e ∈ entries, e.Canonical) →
    formsOf (entries.map Entry.render) = Entry.outline entries
  | [], _ => rfl
  | e :: more, h => by
      obtain ⟨he, hmore⟩ := List.forall_mem_cons.mp h
      rw [List.map_cons, formsOf_cons_of_classify (classify_render he) (by simp),
        formsOf_render hmore]
      rfl

theorem Entry.formsOf_blockRows {entries : List Entry} (h : ∀ e ∈ entries, e.Canonical) :
    formsOf (Entry.blockRows entries) = Entry.outline entries := by
  unfold Entry.blockRows
  split
  · rename_i he
    rw [List.isEmpty_iff.mp he]
    rfl
  · rw [formsOf_cons_nil, formsOf_render h]

theorem Section.formsOf_rows {s : Section} (h : s.Canonical) : formsOf s.rows = s.outline := by
  rw [Section.rows, formsOf_cons_of_classify (classify_sectionHeading h.name) (by simp),
    Entry.formsOf_blockRows h.entries]
  rfl

/-- Blocks that have their outlines as forms, one after the other. -/
theorem flatMap_formsOf {α : Type} {rows : α → List Text} {outline : α → List Line} {xs : List α}
    (h : ∀ x ∈ xs, formsOf (rows x) = outline x) :
    (xs.map rows).flatMap formsOf = xs.flatMap outline := by
  induction xs with
  | nil => rfl
  | cons x xs ih =>
      obtain ⟨hx, hxs⟩ := List.forall_mem_cons.mp h
      rw [List.map_cons, List.flatMap_cons, List.flatMap_cons, hx, ih hxs]

theorem Section.formsOf_blockRows {sections : List Section} (h : ∀ s ∈ sections, s.Canonical) :
    formsOf (Section.blockRows sections) = sections.flatMap Section.outline := by
  unfold Section.blockRows
  split
  · rename_i hs
    rw [List.isEmpty_iff.mp hs]
    rfl
  · rw [formsOf_cons_nil, formsOf_intercalate_blank,
      flatMap_formsOf fun s hs => Section.formsOf_rows (h s hs)]

theorem Version.formsOf_rows {v : Version} (h : v.Canonical) : formsOf v.rows = v.outline := by
  rw [Version.rows, formsOf_cons_of_classify (classify_renderHeading h.id h.date) (by simp),
    formsOf_append, Entry.formsOf_blockRows h.entries, Section.formsOf_blockRows h.sections]
  rfl

/-- **The rows of a canonical changelog are taken for its outline.** -/
theorem Changelog.formsOf_rows {c : Changelog} (h : c.Canonical) : formsOf c.rows = c.outline := by
  rw [Changelog.rows, formsOf_intercalate_blank,
    flatMap_formsOf fun v hv => Version.formsOf_rows (h.versions v hv)]
  rfl

/-- **The file of a canonical changelog is taken for its outline.** -/
theorem Changelog.formsOf_lines_render {c : Changelog} (h : c.Canonical) :
    formsOf (lines c.render) = c.outline := by
  by_cases hne : c.versions = []
  · obtain ⟨versions⟩ := c
    subst hne
    rfl
  · rw [lines_render h hne, formsOf_rows h]

end MergeScribe
