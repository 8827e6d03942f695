import MergeScribe.Proofs.Changelog.Lossless

/-!
# What is left to object to in a written file

The file of a document has its headings and entries where they belong, so a careful reader of it can
only object to a reference that an entry before it in the same place has too. Each line is looked at
together with what is objected to in it (`Reader.judged`); the changes among the lines show the
entries of the document one after the other (`Shows`), and each section, version and document is read
so (`Reader.AtEnd.shows_section`, `Reader.shows_version`, `Reader.shows_versions`). Main statement:
in a file that was read and written again, the violations are the repeated references, each at the
number of the line that shows its entry (`Changelog.violations_render_parse`).
-/

namespace MergeScribe

open Text Outline

/-! ## 1. Entries in their places -/

/-- An entry with the entries before it in its place. -/
structure Standing where
  earlier : List Entry
  entry : Entry
  deriving DecidableEq, Repr

/-- The reference of an entry, if an entry before it in its place has it too. -/
def Standing.repeated? (s : Standing) : Option Text :=
  s.entry.reference.filter fun r => Entry.listed s.earlier (some r)

/-- What there is to object to in the line of a number that shows an entry. -/
def Standing.violation? (n : Nat) (s : Standing) : Option Violation :=
  s.repeated?.map fun r => ⟨n, .duplicateReference r⟩

/-- Entries that follow others in a place, each with those before it. -/
def Entry.standings (earlier : List Entry) : List Entry → List Standing
  | [] => []
  | e :: more => ⟨earlier, e⟩ :: standings (earlier ++ [e]) more

/-- The entries of a version in the order in which they are written. -/
def Version.standings (v : Version) : List Standing :=
  Entry.standings [] v.entries ++ v.sections.flatMap fun s => Entry.standings [] s.entries

/-- The entries of a document in the order in which they are written. -/
def Changelog.standings (c : Changelog) : List Standing :=
  c.versions.flatMap Version.standings

/-- No place of the document has a reference twice. -/
def Changelog.Apart (c : Changelog) : Prop :=
  ∀ id place, ((c.entriesAt id place).filterMap Entry.reference).Nodup

theorem Standing.repeated?_eq_none_iff {s : Standing} : s.repeated? = none ↔
    ∀ r, s.entry.reference = some r → r ∉ s.earlier.filterMap Entry.reference := by
  rw [repeated?, Option.filter_eq_none_iff]
  refine forall_congr' fun r => imp_congr_right fun _ => ?_
  rw [← Entry.listed_iff]

/-- Entries repeat nothing exactly if their references are apart. -/
theorem Entry.forall_repeated?_eq_none {entries earlier : List Entry}
    (h : (earlier.filterMap Entry.reference).Nodup) :
    (∀ s ∈ standings earlier entries, s.repeated? = none) ↔
      ((earlier ++ entries).filterMap Entry.reference).Nodup := by
  induction entries generalizing earlier with
  | nil => simpa [standings] using h
  | cons e more ih =>
      have hcons : earlier ++ e :: more = (earlier ++ [e]) ++ more := by simp
      have hnext : ((earlier ++ [e]).filterMap Entry.reference).Nodup ↔
          (⟨earlier, e⟩ : Standing).repeated? = none := by
        rw [Entry.nodup_references_concat, Standing.repeated?_eq_none_iff]
        exact and_iff_right h
      rw [standings, List.forall_mem_cons, hcons, ← hnext]
      constructor
      · rintro ⟨hhere, hmore⟩
        exact (ih hhere).mp hmore
      · intro hall
        have hhere : ((earlier ++ [e]).filterMap Entry.reference).Nodup := by
          rw [List.filterMap_append] at hall
          exact hall.of_append_left
        exact ⟨hhere, (ih hhere).mpr hall⟩

/-! ## 2. Lines and what is objected to in them -/

/-- An entry on its line, with what there is to object to in it. -/
def Standing.judged (s : Standing) : Line × Option Fault :=
  (.change s.entry, s.repeated?.map .duplicateReference)

/-- Lines that show entries: the changes among them are the entries, one after the other, and there
is nothing to object to in the others. -/
inductive Shows : List (Line × Option Fault) → List Standing → Prop
  | nil : Shows [] []
  | other {line : Line} {judged : List (Line × Option Fault)} {standings : List Standing}
      (hline : line.isChange = false) (h : Shows judged standings) :
      Shows ((line, none) :: judged) standings
  | entry (s : Standing) {judged : List (Line × Option Fault)} {standings : List Standing}
      (h : Shows judged standings) : Shows (s.judged :: judged) (s :: standings)

theorem Shows.append {judged judged' : List (Line × Option Fault)}
    {standings standings' : List Standing} (h : Shows judged standings)
    (h' : Shows judged' standings') : Shows (judged ++ judged') (standings ++ standings') := by
  induction h with
  | nil => exact h'
  | other hline _ ih => exact .other hline ih
  | entry s _ ih => exact .entry s ih

namespace Reader

/-- Lines, each with what a careful reader objects to in it. -/
def judged (r : Reader) : List Line → List (Line × Option Fault)
  | [] => []
  | line :: more => (line, r.fault? line) :: (r.read line).judged more

theorem judged_append (r : Reader) (lines more : List Line) :
    r.judged (lines ++ more) = r.judged lines ++ (r.readAll lines).judged more := by
  induction lines generalizing r with
  | nil => rfl
  | cons line lines ih => exact congrArg ((line, r.fault? line) :: ·) (ih (r.read line))

theorem map_fst_judged (r : Reader) (lines : List Line) :
    (r.judged lines).map Prod.fst = lines := by
  induction lines generalizing r with
  | nil => rfl
  | cons line lines ih => exact congrArg (line :: ·) (ih (r.read line))

/-- The violations are what is objected to, each with the number of its line. -/
theorem violations_eq (r : Reader) (number : Nat) (lines : List Line) :
    r.violations number lines =
      ((r.judged lines).zipIdx number).filterMap fun p => p.1.2.map (Violation.mk p.2) := by
  induction lines generalizing r number with
  | nil => rfl
  | cons line lines ih =>
      rw [violations, judged, List.zipIdx_cons, List.filterMap_cons, ih]
      cases r.fault? line <;> rfl

/-- Blank lines show nothing. -/
theorem shows_of_filter_blank {r : Reader} {lines : List Line} {standings : List Standing}
    (h : Shows (r.judged (lines.filter fun line => line ≠ .blank)) standings) :
    Shows (r.judged lines) standings := by
  induction lines generalizing r standings with
  | nil => exact h
  | cons line lines ih =>
      by_cases hb : line = .blank
      · subst hb
        exact .other rfl (ih h)
      · rw [List.filter_cons_of_pos (by simpa using hb), judged] at h
        rw [judged]
        generalize r.fault? line = fault at h ⊢
        cases h with
        | other hline h => exact .other hline (ih h)
        | entry s h => exact .entry s (ih h)

end Reader

/-! ## 3. Reading what was written -/

/-- Where the entries go that are read last, one more goes behind the others. -/
theorem Version.EndsAt.entriesIn_append {v : Version} {last : Option Nat} (h : v.EndsAt last)
    (e : Entry) : (v.modifyEntries last fun entries => entries ++ [e]).entriesIn last =
      v.entriesIn last ++ [e] := by
  cases h with
  | direct hnone => rfl
  | under earlier s hlast => simp [Version.modifyEntries, Version.entriesIn, hlast]

namespace Reader

variable {r : Reader} {done : List Version} {v : Version} {last : Option Nat}

/-- At the end of a document a change is compared with the entries before it in its place. -/
theorem AtEnd.fault?_change (h : r.AtEnd done v last) (e : Entry) : r.fault? (.change e) =
    (⟨v.entriesIn last, e⟩ : Standing).repeated?.map .duplicateReference := by
  have hentries : r.document.entriesIn done.length last = v.entriesIn last := by
    rw [h.document, Changelog.entriesIn, List.getElem?_concat_length]
    rfl
  cases he : e.reference with
  | none => simp only [fault?, h.versionAt, he, Standing.repeated?, Option.filter_none, Option.map_none]
  | some reference =>
      simp only [fault?, h.versionAt, h.sectionAt, hentries, he, Standing.repeated?,
        Option.filter_some]
      split <;> rfl

/-- Entries that are read at the end of a document are shown behind those of their place. -/
theorem AtEnd.shows_entries (h : r.AtEnd done v last) (hlast : v.EndsAt last)
    (entries : List Entry) :
    Shows (r.judged (Entry.outline entries)) (Entry.standings (v.entriesIn last) entries) := by
  induction entries generalizing r v with
  | nil => exact .nil
  | cons e more ih =>
      have hmore := ih (h.addEntry e) (hlast.append e).1
      rw [hlast.entriesIn_append] at hmore
      have hentry := Shows.entry ⟨v.entriesIn last, e⟩ hmore
      rw [Standing.judged, ← h.fault?_change e] at hentry
      exact hentry

/-- A new section shows its entries. -/
theorem AtEnd.shows_section (h : r.AtEnd done v last) {s : Section}
    (hnew : ∀ s' ∈ v.sections, s'.name ≠ s.name) :
    Shows (r.judged s.outline) (Entry.standings [] s.entries) := by
  have hsection := h.enterSection hnew
  have hentries := hsection.shows_entries (.under v.sections ⟨s.name, []⟩ rfl) s.entries
  have hfine : r.fault? (.heading s.name) = none := by simp [fault?, h.versionAt]
  have hempty : Version.entriesIn { v with sections := v.sections ++ [⟨s.name, []⟩] }
      (some v.sections.length) = [] := by
    simp [Version.entriesIn]
  rw [hempty] at hentries
  rw [Section.outline, judged, hfine]
  exact .other rfl hentries

/-- All sections of a version, after those that were read already. -/
theorem AtEnd.shows_sections {sections : List Section} (h : r.AtEnd done v last)
    (hnames : ((v.sections ++ sections).map Section.name).Nodup) :
    Shows (r.judged (sections.flatMap Section.outline))
      (sections.flatMap fun s => Entry.standings [] s.entries) := by
  induction sections generalizing r v last with
  | nil => exact .nil
  | cons s more ih =>
      have hnew : ∀ s' ∈ v.sections, s'.name ≠ s.name := ne_of_nodup_map hnames
      have hmore := ih (h.readAll_section hnew) (by simpa using hnames)
      rw [List.flatMap_cons, List.flatMap_cons, judged_append]
      exact (h.shows_section hnew).append hmore

/-- A new version shows its entries. -/
theorem shows_version (hdoc : r.document = ⟨done⟩) (hv : v.Canonical)
    (hnew : ∀ w ∈ done, w.id ≠ v.id) (hhead : v.id = Version.head → done = []) :
    Shows (r.judged v.outline) v.standings := by
  have hheading : (r.enterVersion v.id v.date).AtEnd done
      { Version.fresh v.id with date := v.date } none := enterVersion_new hdoc hnew hhead
  have hentries := hheading.shows_entries (.direct rfl) v.entries
  have hnames : (([] ++ v.sections).map Section.name).Nodup := hv.names
  have hsections := (hheading.readAll_entries v.entries).shows_sections hnames
  have hfine : r.fault? (.version v.id v.date) = none := by
    have hposition : r.document.position? v.id = none := by
      rw [hdoc]
      exact List.findIdx?_eq_none_iff.mpr fun w hw => by simpa using hnew w hw
    have hfirst : ¬ (v.id = Version.head ∧ ¬ r.document.isEmpty) := by
      rintro ⟨e, hlate⟩
      rw [hdoc, hhead e] at hlate
      exact hlate rfl
    simp only [fault?, hposition, if_neg hfirst]
    rfl
  rw [Version.outline, judged, hfine, judged_append]
  exact .other rfl (hentries.append hsections)

/-- All versions of a document, after those that were read already. -/
theorem shows_versions {versions : List Version} (hdoc : r.document = ⟨done⟩)
    (h : Changelog.Canonical ⟨done ++ versions⟩) :
    Shows (r.judged (versions.flatMap Version.outline)) (versions.flatMap Version.standings) := by
  induction versions generalizing r done with
  | nil => exact .nil
  | cons v more ih =>
      have hv : v.Canonical := h.versions v (by simp)
      obtain ⟨hnew, hhead⟩ := h.ordered.next
      have hmore := ih (readAll_version hdoc hv hnew hhead) (by simpa using h)
      rw [List.flatMap_cons, List.flatMap_cons, judged_append]
      exact (shows_version hdoc hv hnew hhead).append hmore

end Reader

/-! ## 4. References that are apart -/

/-- Without repeated references, and only so, no place has a reference twice. -/
theorem Changelog.apart_iff {c : Changelog} (h : c.Canonical) :
    c.Apart ↔ ∀ s ∈ c.standings, s.repeated? = none := by
  have hplace (entries : List Entry) : (∀ s ∈ Entry.standings [] entries, s.repeated? = none) ↔
      (entries.filterMap Entry.reference).Nodup :=
    Entry.forall_repeated?_eq_none List.nodup_nil
  have hall : (∀ s ∈ c.standings, s.repeated? = none) ↔ ∀ v ∈ c.versions,
      (v.entries.filterMap Entry.reference).Nodup ∧
        ∀ s ∈ v.sections, (s.entries.filterMap Entry.reference).Nodup := by
    simp only [standings, Version.standings, List.forall_mem_flatMap, List.forall_mem_append, hplace]
  rw [hall]
  constructor
  · intro hapart v hv
    have hversion (place : Place) : ((v.entriesAt place).filterMap Entry.reference).Nodup := by
      rw [← entriesAt_version h.ordered hv]
      exact hapart v.id place
    refine ⟨hversion .direct, fun s hs => ?_⟩
    rw [← Version.entriesAt_section (h.versions v hv).names hs]
    exact hversion (.under s.name)
  · intro hapart id place
    unfold entriesAt
    cases hfound : c.version? id with
    | none => exact List.nodup_nil
    | some v =>
        obtain ⟨hdirect, hsections⟩ := hapart v (List.mem_of_find?_eq_some hfound)
        cases place with
        | direct => exact hdirect
        | under name =>
            show (((v.section? name).map Section.entries).getD [] |>.filterMap _).Nodup
            cases hs : v.section? name with
            | none => exact List.nodup_nil
            | some s => exact hsections s (List.mem_of_find?_eq_some hs)

/-! ## 5. Line numbers -/

/-- The changes of a file, each with the number of its line. -/
def Changelog.numberedChanges (t : Text) : List (Nat × Entry) :=
  ((linesOf t).zipIdx 1).filterMap fun p => p.1.change?.map fun e => (p.2, e)

/-- The entries of a document with the numbers of the lines that show them in its file. -/
structure Changelog.Numbers (c : Changelog) (numbered : List (Nat × Standing)) : Prop where
  entries : numbered.map Prod.snd = c.standings
  changes : numbered.map (fun p => (p.1, p.2.entry)) = numberedChanges c.render
  lines : ∀ n s, (n, s) ∈ numbered → 1 ≤ n ∧ (Text.lines c.render)[n - 1]? = some s.entry.render

/-- Lines that show entries number them, and what is objected to are the repeated references. -/
theorem Shows.numbered {judged : List (Line × Option Fault)} {standings : List Standing}
    (h : Shows judged standings) (number : Nat) : ∃ numbered : List (Nat × Standing),
      numbered.map Prod.snd = standings ∧
      numbered.map (fun p => (p.1, p.2.entry)) =
        ((judged.map Prod.fst).zipIdx number).filterMap
          (fun p => p.1.change?.map fun e => (p.2, e)) ∧
      (judged.zipIdx number).filterMap (fun p => p.1.2.map (Violation.mk p.2)) =
        numbered.filterMap fun p => p.2.violation? p.1 := by
  induction h generalizing number with
  | nil => exact ⟨[], rfl, rfl, rfl⟩
  | @other line judged standings hline h ih =>
      obtain ⟨numbered, hentries, hchanges, hviolations⟩ := ih (number + 1)
      have hnone : line.change? = none := by
        cases line with
        | change e => cases hline
        | _ => rfl
      refine ⟨numbered, hentries, ?_, ?_⟩
      · rw [hchanges]
        simp [List.zipIdx_cons, hnone]
      · rw [← hviolations]
        simp [List.zipIdx_cons]
  | @entry s judged standings h ih =>
      obtain ⟨numbered, hentries, hchanges, hviolations⟩ := ih (number + 1)
      refine ⟨(number, s) :: numbered, congrArg (s :: ·) hentries, ?_, ?_⟩
      · rw [List.map_cons, hchanges]
        simp [List.zipIdx_cons, Standing.judged, Line.change?]
      · rw [List.zipIdx_cons, List.filterMap_cons, List.filterMap_cons, hviolations]
        cases hr : s.repeated? <;> simp [Standing.judged, Standing.violation?, hr]

namespace Changelog

variable {c : Changelog}

/-- The line of a change in a written file is what the change is written as. -/
theorem line_of_mem_numberedChanges (h : c.Canonical) {n : Nat} {e : Entry}
    (hm : (n, e) ∈ numberedChanges c.render) :
    1 ≤ n ∧ (Text.lines c.render)[n - 1]? = some e.render := by
  obtain ⟨⟨line, k⟩, hline, hchange⟩ := List.mem_filterMap.mp hm
  obtain ⟨e', he, hk⟩ := Option.map_eq_some_iff.mp hchange
  obtain ⟨rfl, rfl⟩ := Prod.mk.inj hk
  obtain ⟨hpos, hat⟩ := List.mk_mem_zipIdx_iff_le_and_getElem?_sub.mp hline
  rw [linesOf, List.getElem?_map] at hat
  obtain ⟨row, hrow, hform⟩ := Option.map_eq_some_iff.mp hat
  have hwritten : Written row := written_lines_render h row (List.mem_of_getElem? hrow)
  have hshown : line = .change e' := by
    cases line with
    | change e => exact congrArg Line.change (Option.some.inj he)
    | _ => cases he
  rw [Written, hform, hshown] at hwritten
  exact ⟨hpos, hrow.trans (congrArg some hwritten.symm)⟩

theorem shows_render (h : c.Canonical) :
    Shows (Reader.start.judged (linesOf c.render)) c.standings := by
  have hlines : (linesOf c.render).filter (fun line => line ≠ .blank) = c.outline :=
    formsOf_lines_render h
  have hversions : Shows (Reader.start.judged c.outline) c.standings :=
    @Reader.shows_versions Reader.start [] c.versions rfl h
  rw [← hlines] at hversions
  exact Reader.shows_of_filter_blank hversions

/-- What is objected to in a written file are the repeated references. -/
theorem violations_render (h : c.Canonical) : ∃ numbered, c.Numbers numbered ∧
    violations c.render = numbered.filterMap fun p => p.2.violation? p.1 := by
  obtain ⟨numbered, hentries, hchanges, hviolations⟩ := (shows_render h).numbered 1
  rw [Reader.map_fst_judged] at hchanges
  refine ⟨numbered, ⟨hentries, hchanges, fun n s hm => ?_⟩, ?_⟩
  · refine line_of_mem_numberedChanges h ?_
    rw [numberedChanges, ← hchanges]
    exact List.mem_map_of_mem (f := fun p : Nat × Standing => (p.1, p.2.entry)) hm
  · rw [violations, Reader.violations_eq, hviolations]

/-- The strict reading gives the document or all violations. -/
theorem parseStrict_eq (t : Text) : parseStrict t =
    if violations t = [] then .ok (parse t) else .error (violations t) := by
  rw [parseStrict]
  cases violations t <;> rfl

/-- A written file has no violations exactly if no place of the document has a reference twice. -/
theorem violations_render_eq_nil_iff (h : c.Canonical) : violations c.render = [] ↔ c.Apart := by
  obtain ⟨numbered, hnumbers, hviolations⟩ := violations_render h
  rw [hviolations, apart_iff h, ← hnumbers.entries, List.filterMap_eq_nil_iff, List.forall_mem_map]
  simp only [Standing.violation?, Option.map_eq_none_iff]

/-- The file of a document stands up to a strict reading exactly if no place of the document has a
reference twice. -/
theorem parseStrict_render_iff (h : c.Canonical) : parseStrict c.render = .ok c ↔ c.Apart := by
  rw [← violations_render_eq_nil_iff h, parseStrict_eq, parse_render h]
  simp

/-- A text without violations has none when it is read and written again. -/
theorem violations_render_parse_eq_nil {t : Text} (h : violations t = []) :
    violations (parse t).render = [] := by
  have hstrict : Strict (linesOf t) := violations_eq_nil_iff.mp h
  refine (violations_render_eq_nil_iff (parse_canonical t)).mpr fun id place => ?_
  rw [parse_eq, entriesAt_grouped (linesOf t) ⟨id, place⟩]
  exact hstrict.references ⟨id, place⟩

/-- **What a careful reader objects to in a file that was read and written again** are the references
that an entry before in the same place has too, one for each such entry, at the number of the line
that shows it. So the file stands up to a strict reading exactly if no place has a reference twice. -/
theorem violations_render_parse (t : Text) :
    (∃ numbered found, (parse t).Numbers numbered ∧
      found = numbered.filterMap (fun p => p.2.violation? p.1) ∧
      violations (parse t).render = found ∧
      parseStrict (parse t).render = if found = [] then .ok (parse t) else .error found) ∧
    ((∃ c, parseStrict (parse t).render = .ok c) ↔ (parse t).Apart) := by
  have hcanonical := parse_canonical t
  have hread := parse_render hcanonical
  obtain ⟨numbered, hnumbers, hviolations⟩ := violations_render hcanonical
  have hstrict := parseStrict_eq (parse t).render
  rw [hread] at hstrict
  refine ⟨⟨numbered, violations (parse t).render, hnumbers, hviolations, rfl, hstrict⟩, ?_⟩
  rw [← parseStrict_render_iff hcanonical]
  refine ⟨fun ⟨c, hc⟩ => ?_, fun h => ⟨_, h⟩⟩
  obtain ⟨-, -, -, hok, -⟩ := parseStrict_exact (parse t).render
  have hsame : c = parse (parse t).render := ((hok c).mp hc).2
  rw [hsame, hread] at hc
  exact hc

/-- Two blocks become one, and a wrapped line brings a reference that was there already. -/
example :
    let t : Text := "## 1.0.0\n### Bugs\n* One (#1)\n## 0.9.0\n## 1.0.0\n### Bugs\n* Two\n(#1)\n"
    violations (parse t).render = [⟨6, .duplicateReference "#1"⟩] := by
  decide +kernel

end Changelog

end MergeScribe
