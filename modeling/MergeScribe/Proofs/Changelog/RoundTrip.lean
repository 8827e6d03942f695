import MergeScribe.Proofs.Changelog.Layout
import MergeScribe.Proofs.Changelog.Reading

/-!
# Writing and reading back

A canonical changelog is read back from its file as it was written, and nothing else is: what is
read from a file is canonical. Main statements: reading what was written gives the changelog back
exactly when it is canonical (`Changelog.parse_render_eq_iff`), so whatever the file, writing what
was read from it settles its text (`Changelog.parse_render_parse`).
-/

namespace MergeScribe

open Text

/-! ## 1. Reading at the end of a document -/

namespace Reader

/-- Blank lines are passed over. -/
theorem readAll_filter_blank (r : Reader) (lines : List Line) :
    r.readAll (lines.filter fun line => line ≠ .blank) = r.readAll lines := by
  induction lines generalizing r with
  | nil => rfl
  | cons line more ih =>
      by_cases h : line = .blank
      · subst h
        exact ih r
      · rw [List.filter_cons_of_pos (by simpa using h)]
        exact ih (r.read line)

theorem readAll_append (r : Reader) (lines more : List Line) :
    r.readAll (lines ++ more) = (r.readAll lines).readAll more :=
  List.foldl_append

/-- The reader is at its last version, and new entries go to its last section or, without one,
directly under it. -/
structure AtEnd (r : Reader) (done : List Version) (v : Version) (sectionAt : Option Nat) : Prop where
  document : r.document = ⟨done ++ [v]⟩
  versionAt : r.versionAt = some done.length
  sectionAt : r.sectionAt = sectionAt

variable {r : Reader} {done : List Version} {v : Version} {sectionAt : Option Nat}

/-- The heading of a new version. `HEAD` can only be the first, and then the front is the end. -/
theorem enterVersion_new {id : Text} {date : Option Text} (hdoc : r.document = ⟨done⟩)
    (hnew : ∀ w ∈ done, w.id ≠ id) (hhead : id = Version.head → done = []) :
    (r.enterVersion id date).AtEnd done { Version.fresh id with date := date } none := by
  have hpos : r.document.position? id = none := by
    rw [hdoc]
    exact List.findIdx?_eq_none_iff.mpr fun w hw => by simpa using hnew w hw
  unfold enterVersion
  rw [hpos]
  by_cases h : id = Version.head
  · rw [hhead h] at hdoc ⊢
    simp only [h, if_true, hdoc]
    exact ⟨rfl, rfl, rfl⟩
  · simp only [h, if_false, hdoc]
    exact ⟨rfl, rfl, rfl⟩

/-- The heading of a new section. -/
theorem AtEnd.enterSection (h : r.AtEnd done v sectionAt) {name : Text}
    (hnew : ∀ s ∈ v.sections, s.name ≠ name) :
    (r.enterSection name).AtEnd done { v with sections := v.sections ++ [⟨name, []⟩] }
      (some v.sections.length) := by
  have hnone : (v.sections.any fun s => s.name == name) = false := by
    rw [List.any_eq_false]
    intro s hs
    simpa using hnew s hs
  have hensure : v.ensureSection name = { v with sections := v.sections ++ [⟨name, []⟩] } := by
    rw [Version.ensureSection, hnone]
    rfl
  have hdoc : r.document.modifyVersion done.length (fun v => v.ensureSection name) =
      ⟨done ++ [v.ensureSection name]⟩ := by
    rw [h.document, Changelog.modifyVersion, modify_length_concat]
  have hidx : (v.sections ++ [(⟨name, []⟩ : Section)]).findIdx? (fun s => s.name == name) =
      some v.sections.length := by
    rw [List.findIdx?_append, List.findIdx?_eq_none_iff.mpr fun s hs => by simpa using hnew s hs]
    simp
  unfold Reader.enterSection
  rw [h.versionAt]
  refine ⟨?_, rfl, ?_⟩
  · rw [← hensure]
    exact hdoc
  · show ((r.document.modifyVersion done.length fun v => v.ensureSection name).versions[done.length]?.bind
      fun v => v.sections.findIdx? fun s => s.name == name) = some v.sections.length
    rw [hdoc, List.getElem?_concat_length, Option.bind_some, hensure]
    exact hidx

theorem AtEnd.addEntry (h : r.AtEnd done v sectionAt) (e : Entry) :
    (r.addEntry e).AtEnd done (v.modifyEntries sectionAt fun entries => entries ++ [e]) sectionAt := by
  unfold Reader.addEntry
  rw [h.versionAt]
  refine ⟨?_, rfl, h.sectionAt⟩
  show r.document.modifyVersion done.length _ = _
  rw [h.document, h.sectionAt, Changelog.modifyVersion, modify_length_concat]

/-! ## 2. Reading the outline -/

/-- No more entries are none. -/
theorem modifyEntries_append_nil (v : Version) (sectionAt : Option Nat) :
    v.modifyEntries sectionAt (fun entries => entries ++ []) = v := by
  obtain ⟨name, date, entries, sections⟩ := v
  cases sectionAt with
  | none => simp [Version.modifyEntries]
  | some j =>
      have hid : (fun s : Section => { s with entries := s.entries ++ [] }) = id := by
        funext s
        simp
      simp only [Version.modifyEntries, hid, List.modify_id]

theorem modifyEntries_modifyEntries (v : Version) (sectionAt : Option Nat)
    (f g : List Entry → List Entry) :
    (v.modifyEntries sectionAt f).modifyEntries sectionAt g =
      v.modifyEntries sectionAt fun entries => g (f entries) := by
  cases sectionAt with
  | none => rfl
  | some j =>
      simp only [Version.modifyEntries, List.modify_modify_eq]
      rfl

/-- Entries go where the cursors are. -/
theorem AtEnd.readAll_entries (h : r.AtEnd done v sectionAt) (entries : List Entry) :
    (r.readAll (Entry.outline entries)).AtEnd done
      (v.modifyEntries sectionAt fun es => es ++ entries) sectionAt := by
  induction entries generalizing r v with
  | nil =>
      rw [modifyEntries_append_nil]
      exact h
  | cons e more ih =>
      have hmore := ih (h.addEntry e)
      rw [modifyEntries_modifyEntries] at hmore
      simpa [Entry.outline, readAll, read] using hmore

/-- A new section is read to the end of the version. -/
theorem AtEnd.readAll_section (h : r.AtEnd done v sectionAt) {s : Section}
    (hnew : ∀ s' ∈ v.sections, s'.name ≠ s.name) :
    (r.readAll s.outline).AtEnd done { v with sections := v.sections ++ [s] }
      (some v.sections.length) := by
  have hentries := (h.enterSection hnew).readAll_entries s.entries
  have hv : Version.modifyEntries { v with sections := v.sections ++ [⟨s.name, []⟩] }
      (some v.sections.length) (fun es => es ++ s.entries) =
      { v with sections := v.sections ++ [s] } := by
    rw [Version.modifyEntries, modify_length_concat]
    rfl
  rw [hv] at hentries
  exact hentries

/-- All sections of a version, after those that were read already. -/
theorem AtEnd.readAll_sections {sections : List Section} (h : r.AtEnd done v sectionAt)
    (hnames : ((v.sections ++ sections).map Section.name).Nodup) :
    ∃ last, (r.readAll (sections.flatMap Section.outline)).AtEnd done
      { v with sections := v.sections ++ sections } last := by
  induction sections generalizing r v sectionAt with
  | nil =>
      rw [List.append_nil]
      exact ⟨sectionAt, h⟩
  | cons s more ih =>
      have hnew : ∀ s' ∈ v.sections, s'.name ≠ s.name := ne_of_nodup_map hnames
      obtain ⟨last, hmore⟩ := ih (h.readAll_section hnew) (by simpa using hnames)
      refine ⟨last, ?_⟩
      rw [List.flatMap_cons, readAll_append]
      simpa using hmore

/-- A new version is read to the end of the document. -/
theorem readAll_version (hdoc : r.document = ⟨done⟩) (hv : v.Canonical)
    (hnew : ∀ w ∈ done, w.id ≠ v.id) (hhead : v.id = Version.head → done = []) :
    (r.readAll v.outline).document = ⟨done ++ [v]⟩ := by
  have hheading : (r.enterVersion v.id v.date).AtEnd done
      { Version.fresh v.id with date := v.date } none := enterVersion_new hdoc hnew hhead
  have hnames : (([] ++ v.sections).map Section.name).Nodup := hv.names
  obtain ⟨last, hsections⟩ := (hheading.readAll_entries v.entries).readAll_sections hnames
  show (Reader.readAll _ (Entry.outline v.entries ++ v.sections.flatMap Section.outline)).document = _
  rw [readAll_append]
  exact hsections.document

/-- All versions of a document, after those that were read already. -/
theorem readAll_versions {versions : List Version} (hdoc : r.document = ⟨done⟩)
    (h : Changelog.Canonical ⟨done ++ versions⟩) :
    (r.readAll (versions.flatMap Version.outline)).document = ⟨done ++ versions⟩ := by
  induction versions generalizing r done with
  | nil =>
      rw [List.append_nil]
      exact hdoc
  | cons v more ih =>
      have hv : v.Canonical := h.versions v (by simp)
      obtain ⟨hnew, hhead⟩ := h.ordered.next
      have hmore := ih (readAll_version hdoc hv hnew hhead) (by simpa using h)
      rw [List.flatMap_cons, readAll_append]
      simpa using hmore

end Reader

/-! ## 3. Files -/

namespace Changelog

/-- **A canonical changelog is read back from its file.** -/
theorem parse_render {c : Changelog} (h : c.Canonical) : parse c.render = c := by
  have hlines : (linesOf c.render).filter (fun line => line ≠ .blank) = c.outline :=
    formsOf_lines_render h
  have hread : (Reader.start.readAll c.outline).document = ⟨[] ++ c.versions⟩ :=
    Reader.readAll_versions rfl h
  rw [← hlines, Reader.readAll_filter_blank] at hread
  exact hread

/-- **What is written is read back exactly when it is canonical.** -/
theorem parse_render_eq_iff (c : Changelog) : parse c.render = c ↔ c.Canonical := by
  constructor
  · intro h
    rw [← h]
    exact parse_canonical c.render
  · exact parse_render

/-- **Whatever the file, writing what was read from it settles the document and the text.** -/
theorem parse_render_parse (t : Text) :
    parse (parse t).render = parse t ∧ (parse (parse t).render).render = (parse t).render := by
  have h := parse_render (parse_canonical t)
  exact ⟨h, congrArg render h⟩

end Changelog

end MergeScribe
