import MergeScribe.Command.Format
import MergeScribe.Proofs.Changelog.Blocks
import MergeScribe.Proofs.Changelog.Ink
import MergeScribe.Proofs.Changelog.RoundTrip
import MergeScribe.Proofs.Changelog.Strictness
import MergeScribe.Proofs.Program.Transcript

/-!
# Formatting a strict file

A careful reader refuses what the reading of a file would drop, move or join, with one exception:
the sections of one name in a version become one section, and nothing is said about that. Where no
section heading comes twice, the reader is always at the end of its document, and the document is the
lines over again (`Reader.mirrors_readAll`). A document has no two sections of one name in a version,
so its lines have no heading twice (`nodup_headingsUnder_outline`). Main statement: formatting a
strict file is lossless exactly if no section heading comes twice under a version, and then it
changes nothing but spaces, the spelling of `HEAD` and blank lines
(`Changelog.parseStrict_lossless`).
-/

namespace MergeScribe

open Text Outline

/-! ## 1. The headings of an outline -/

namespace Outline

theorem versionIds_filter_blank (lines : List Line) :
    versionIds (lines.filter fun line => line ≠ .blank) = versionIds lines := by
  unfold versionIds
  rw [List.filterMap_filter]
  refine congrArg _ (List.filterMap_congr fun line _ => ?_)
  cases line <;> rfl

/-- Blank lines make no difference to where section headings belong. -/
theorem headingsUnder_filter_blank (lines : List Line) (id : Text) :
    headingsUnder (lines.filter fun line => line ≠ .blank) id = headingsUnder lines id := by
  induction lines using List.reverseRecOn with
  | nil => rfl
  | append_singleton lines line ih =>
      rw [List.filter_append, headingsUnder_concat]
      by_cases h : line = .blank
      · subst h
        have hnone : [Line.blank].filter (fun line => line ≠ .blank) = [] := rfl
        rw [hnone, List.append_nil, ih]
        simp [Line.heading?]
      · have hone : [line].filter (fun line => line ≠ .blank) = [line] :=
          List.filter_cons_of_pos (by simpa using h)
        rw [hone, headingsUnder_concat, ih, nearestVersion?, versionIds_filter_blank]
        rfl

end Outline

namespace Version

/-- What a version is read from behind its heading. -/
def contents (v : Version) : List Line :=
  Entry.outline v.entries ++ v.sections.flatMap Section.outline

theorem outline_eq (v : Version) : v.outline = .version v.id v.date :: v.contents :=
  rfl

/-- What changes are read from has no headings of a kind. -/
theorem filterMap_outline {α : Type} {f : Line → Option α} (h : ∀ e, f (.change e) = none)
    (entries : List Entry) : (Entry.outline entries).filterMap f = [] := by
  rw [Entry.outline, List.filterMap_map]
  exact List.filterMap_eq_nil_iff.mpr fun e _ => h e

theorem versionIds_contents (v : Version) : versionIds v.contents = [] := by
  have hentries := filterMap_outline (f := Line.version?) fun _ => rfl
  have hsections : (v.sections.flatMap Section.outline).filterMap Line.version? = [] := by
    rw [List.filterMap_flatMap, List.flatMap_eq_nil_iff]
    intro s _
    exact hentries s.entries
  rw [versionIds, contents, List.filterMap_append, hentries, hsections]
  rfl

/-- The section headings of a version are those of its sections. -/
theorem headings_contents (v : Version) :
    v.contents.filterMap Line.heading? = v.sections.map Section.name := by
  have hentries := filterMap_outline (f := Line.heading?) fun _ => rfl
  have hsection (s : Section) : s.outline.filterMap Line.heading? = [s.name] :=
    congrArg (s.name :: ·) (hentries s.entries)
  rw [contents, List.filterMap_append, hentries, List.nil_append, List.filterMap_flatMap]
  simp only [hsection]
  exact List.map_eq_flatMap.symm

end Version

namespace Outline

theorem versionIds_outline (versions : List Version) :
    versionIds (versions.flatMap Version.outline) = versions.map Version.id := by
  induction versions with
  | nil => rfl
  | cons v versions ih =>
      rw [List.flatMap_cons, versionIds_append, ih, Version.outline_eq, versionIds_version,
        Version.versionIds_contents]
      rfl

/-- The headings of the last version are under it, behind those of the versions before. -/
theorem headingsUnder_outline_concat (versions : List Version) (v : Version) (id : Text) :
    headingsUnder ((versions ++ [v]).flatMap Version.outline) id =
      headingsUnder (versions.flatMap Version.outline) id ++
        if id = v.id then v.sections.map Section.name else [] := by
  rw [List.flatMap_append, List.flatMap_singleton, Version.outline_eq, headingsUnder_append_version,
    headingsUnder_version _ v.versionIds_contents, Version.headings_contents]

/-- **No section heading comes twice under a version of a document.** -/
theorem nodup_headingsUnder_outline {versions : List Version}
    (hids : (versions.map Version.id).Nodup)
    (hnames : ∀ v ∈ versions, (v.sections.map Section.name).Nodup) (id : Text) :
    (headingsUnder (versions.flatMap Version.outline) id).Nodup := by
  induction versions using List.reverseRecOn with
  | nil => exact List.nodup_nil
  | append_singleton versions v ih =>
      rw [List.map_append, List.map_singleton, ← List.concat_eq_append, List.nodup_concat] at hids
      obtain ⟨hold, hlast⟩ := List.forall_mem_append.mp hnames
      rw [headingsUnder_outline_concat]
      split
      · rename_i hid
        have hnone : headingsUnder (versions.flatMap Version.outline) id = [] := by
          refine headingsUnder_eq_nil ?_
          rw [versionIds_outline, hid]
          exact hids.1
        rw [hnone, List.nil_append]
        exact hlast v (List.mem_singleton_self v)
      · rw [List.append_nil]
        exact ih hids.2 hold

end Outline

/-! ## 2. The end of a document -/

/-- Where the entries go that are read last: to the last section, or directly under the version if
it has none. -/
inductive Version.EndsAt (v : Version) : Option Nat → Prop
  | direct (h : v.sections = []) : EndsAt v none
  | under (earlier : List Section) (s : Section) (h : v.sections = earlier ++ [s]) :
      EndsAt v (some earlier.length)

namespace Version

variable {v : Version} {last : Option Nat}

/-- An entry that is entered at the end of a version comes last. -/
theorem EndsAt.append (h : v.EndsAt last) (e : Entry) :
    (v.modifyEntries last fun entries => entries ++ [e]).EndsAt last ∧
      (v.modifyEntries last fun entries => entries ++ [e]).outline = v.outline ++ [.change e] := by
  obtain ⟨id, date, entries, sections⟩ := v
  cases h with
  | direct hnone =>
      obtain rfl : sections = [] := hnone
      refine ⟨.direct rfl, ?_⟩
      simp [modifyEntries, Version.outline, Entry.outline]
  | under earlier s hlast =>
      obtain rfl : sections = earlier ++ [s] := hlast
      have hmodified : modifyEntries ⟨id, date, entries, earlier ++ [s]⟩ (some earlier.length)
          (fun entries => entries ++ [e]) =
          ⟨id, date, entries, earlier ++ [{ s with entries := s.entries ++ [e] }]⟩ := by
        rw [modifyEntries, modify_length_concat]
      rw [hmodified]
      refine ⟨.under earlier _ rfl, ?_⟩
      simp [Version.outline, Section.outline, Entry.outline]

/-- A section that is made comes last. -/
theorem outline_concat_section (v : Version) (name : Text) :
    outline { v with sections := v.sections ++ [⟨name, []⟩] } = v.outline ++ [.heading name] := by
  simp [outline, Section.outline, Entry.outline]

end Version

/-! ## 3. The document is the lines over again -/

/-- After some lines, the document has just these lines, blank ones apart, and the reader is at its
end. -/
structure Reader.Mirrors (r : Reader) (before : List Line) : Prop where
  outline : r.document.outline = before.filter fun line => line ≠ .blank
  atEnd : r.document = .empty ∨ ∃ done v last, r.AtEnd done v last ∧ v.EndsAt last

namespace Reader

variable {r : Reader} {before : List Line}

theorem mirrors_start : start.Mirrors [] where
  outline := rfl
  atEnd := .inl rfl

theorem Mirrors.ids (h : r.Mirrors before) :
    r.document.versions.map Version.id = versionIds before := by
  rw [← versionIds_outline, ← versionIds_filter_blank before]
  exact congrArg versionIds h.outline

/-- Behind a version heading the reader is at its last version. -/
theorem Mirrors.atLast (h : r.Mirrors before) (hlate : versionIds before ≠ []) :
    ∃ done v last, r.AtEnd done v last ∧ v.EndsAt last := by
  rcases h.atEnd with hempty | hend
  · rw [← h.ids, hempty] at hlate
    exact absurd rfl hlate
  · exact hend

theorem Mirrors.blank (h : r.Mirrors before) : r.Mirrors (before ++ [.blank]) where
  outline := by
    rw [List.filter_append]
    exact h.outline.trans (List.append_nil _).symm
  atEnd := h.atEnd

/-- A new version heading is the last line of the document. -/
theorem Mirrors.version (h : r.Mirrors before) {id : Text} (date : Option Text)
    (hnew : id ∉ versionIds before) (hhead : id = Version.head → versionIds before = []) :
    (r.enterVersion id date).Mirrors (before ++ [.version id date]) := by
  obtain ⟨done, hdoc⟩ : ∃ done, r.document = ⟨done⟩ := ⟨_, rfl⟩
  have hids := h.ids
  have houtline := h.outline
  rw [hdoc] at hids houtline
  have hothers : ∀ w ∈ done, w.id ≠ id := by
    intro w hw e
    rw [← hids, ← e] at hnew
    exact hnew (List.mem_map_of_mem hw)
  have hfirst : id = Version.head → done = [] := by
    intro e
    rw [hhead e] at hids
    exact List.map_eq_nil_iff.mp hids
  have hend : (r.enterVersion id date).AtEnd done _ none := enterVersion_new hdoc hothers hfirst
  refine ⟨?_, .inr ⟨done, _, none, hend, .direct rfl⟩⟩
  rw [hend.document, List.filter_append, ← houtline]
  exact List.flatMap_append

/-- A new section heading is the last line of the document. -/
theorem Mirrors.heading (h : r.Mirrors before) {name : Text} (hlate : versionIds before ≠ [])
    (hnew : ∀ id, nearestVersion? before = some id → name ∉ headingsUnder before id) :
    (r.enterSection name).Mirrors (before ++ [.heading name]) := by
  obtain ⟨done, v, last, hend, -⟩ := h.atLast hlate
  have hids := h.ids
  have houtline := h.outline
  rw [hend.document] at hids houtline
  have hnearest : nearestVersion? before = some v.id := by
    rw [nearestVersion?, ← hids, List.map_append]
    exact List.getLast?_concat
  have hheadings := headingsUnder_outline_concat done v v.id
  rw [if_pos rfl] at hheadings
  have hothers : ∀ s ∈ v.sections, s.name ≠ name := by
    intro s hs e
    refine hnew v.id hnearest ?_
    rw [← headingsUnder_filter_blank, ← houtline, ← e]
    exact hheadings ▸ List.mem_append_right _ (List.mem_map_of_mem hs)
  have hsection := hend.enterSection hothers
  refine ⟨?_, .inr ⟨done, _, _, hsection, .under v.sections ⟨name, []⟩ rfl⟩⟩
  rw [hsection.document, List.filter_append, ← houtline]
  simp [Changelog.outline, Version.outline_concat_section]

/-- A change is the last line of the document. -/
theorem Mirrors.change (h : r.Mirrors before) (e : Entry) (hlate : versionIds before ≠ []) :
    (r.addEntry e).Mirrors (before ++ [.change e]) := by
  obtain ⟨done, v, last, hend, hlast⟩ := h.atLast hlate
  have houtline := h.outline
  rw [hend.document] at houtline
  have hentry := hend.addEntry e
  obtain ⟨hlast', hchange⟩ := hlast.append e
  refine ⟨?_, .inr ⟨done, _, last, hentry, hlast'⟩⟩
  rw [hentry.document, List.filter_append, ← houtline]
  simp [Changelog.outline, hchange]

/-- **A strict file without repeated section headings is its document over again.** -/
theorem mirrors_readAll {lines : List Line} (h : Strict lines)
    (honce : ∀ id, (headingsUnder lines id).Nodup) :
    (start.readAll lines).Mirrors lines := by
  -- a line that is added to such a file either has a fault or goes to the end of the document
  induction lines using List.reverseRecOn with
  | nil => exact mirrors_start
  | append_singleton lines line ih =>
      obtain ⟨hstrict, hfine⟩ := strict_concat.mp h
      have hnames (id : Text) := honce id
      simp only [headingsUnder_concat, List.nodup_append] at hnames
      have hbefore := ih hstrict fun id => (hnames id).1
      rw [readAll_append]
      cases line with
      | version id date =>
          have hnew : id ∉ versionIds lines := fun hold => hfine _ (.sameVersion hold)
          refine hbefore.version date hnew ?_
          rintro rfl
          exact Classical.not_not.mp fun hlate => hfine _ (.lateHead hnew hlate)
      | heading name =>
          refine hbefore.heading (fun hearly => hfine _ (.earlySection hearly)) ?_
          intro id hid hm
          refine (hnames id).2.2 name hm name ?_ rfl
          rw [if_pos hid]
          exact List.mem_singleton_self name
      | change e => exact hbefore.change e fun hearly => hfine _ (.earlyChange hearly)
      | blank => exact hbefore.blank
      | other content => exact absurd .text (hfine _)

end Reader

/-! ## 4. Files -/

/-- The lines of a file that are not blank. -/
def Text.inkedLines (t : Text) : List Text :=
  (lines t).filter fun line => !isBlank line

/-- Two files that differ in nothing but spaces, blank lines and the spelling of `HEAD`, line by
line. -/
def Reformatted (t t' : Text) : Prop :=
  List.Forall₂ Respelled (inkedLines t) (inkedLines t')

theorem formsOf_lines (t : Text) : formsOf (lines t) = (inkedLines t).map classify := by
  rw [formsOf, List.filter_map, inkedLines]
  refine congrArg _ (List.filter_congr fun line _ => ?_)
  have hblank : decide (classify line = .blank) = isBlank line :=
    Bool.eq_iff_iff.mpr (decide_eq_true_iff.trans classify_eq_blank_iff)
  rw [Function.comp, decide_not, hblank]

/-- **A canonical file with the forms of another file is that file in other spelling.** -/
theorem reformatted_render {t : Text} {c : Changelog} (hc : c.Canonical)
    (h : formsOf (lines c.render) = formsOf (lines t)) : Reformatted t c.render := by
  rw [formsOf_lines, formsOf_lines] at h
  have hwritten : inkedLines c.render = (inkedLines t).map fun line => (classify line).written :=
    calc inkedLines c.render
        = (inkedLines c.render).map fun line => (classify line).written := by
          refine (List.map_id _).symm.trans (List.map_congr_left fun line hl => ?_)
          exact (Changelog.written_lines_render hc line (List.mem_of_mem_filter hl)).symm
      _ = ((inkedLines c.render).map classify).map Line.written := by
          rw [List.map_map]
          rfl
      _ = ((inkedLines t).map classify).map Line.written := by rw [h]
      _ = (inkedLines t).map fun line => (classify line).written := by
          rw [List.map_map]
          rfl
  rw [Reformatted, hwritten, List.forall₂_map_right_iff, List.forall₂_same]
  exact fun line _ => respelled_written line

/-! ## 5. Formatting -/

namespace Formatting

variable {t : Text} {c : Changelog}

/-- A text that stands up to a strict reading is judged by its canonical form. -/
theorem judge_of_parseStrict (h : Changelog.parseStrict t = .ok c) (check strict : Bool) :
    judge check strict t = if c.render = t then .kept else if check then .unformatted
      else .changed c.render := by
  have hparse : c = Changelog.parse t :=
    ((Changelog.parseStrict_exact t).2.2.2.1 c |>.mp h).2
  have hdocument : document strict t = .ok c := by
    cases strict with
    | true => exact h
    | false => exact congrArg Except.ok hparse.symm
  rw [judge, hdocument]

/-- A run over such a file asks for the file, and then writes the canonical form or nothing. -/
theorem calls_run {σ : Type} {respond : Program.Responder System σ} {s : σ} {file : Text}
    (hread : (respond (.readFile file) s).1.bind Text.ofBytes? = some t)
    (h : Changelog.parseStrict t = .ok c) (check strict : Bool) :
    ((run file check strict).transcript respond s).map Program.Exchange.call =
      .readFile file :: if c.render = t ∨ check = true then [] else [.writeFile file c.render] := by
  have hjudge := judge_of_parseStrict h check strict
  unfold run System.readText System.readFile Program.request
  simp only [bind, Program.bind, pure, Program.transcript, hread, hjudge]
  by_cases hsame : c.render = t
  · rw [if_pos hsame, if_pos (.inl hsame)]
    rfl
  · rw [if_neg hsame]
    cases check with
    | true =>
        rw [if_pos rfl, if_pos (.inr rfl)]
        rfl
    | false =>
        have hwrite : ¬ (c.render = t ∨ false = true) := by simp [hsame]
        rw [if_neg hwrite]
        simp only [Bool.false_eq_true, if_false, System.writeFile, Program.request, Program.bind,
          Program.transcript]
        split <;> rfl

end Formatting

namespace Changelog

/-- **Formatting is lossless on strict files**, except that sections of one name become one. When a
file stands up to a strict reading, its canonical form has the same versions, sections and changes
line by line exactly if no section heading comes twice under a version. Then the canonical form
differs in spaces, blank lines and the spelling of `HEAD` at most, and a formatting run over the
file, strict or not, asks for nothing but the file and writes nothing but such a form to it. -/
theorem parseStrict_lossless {t : Text} {c : Changelog} (h : parseStrict t = .ok c) :
    (formsOf (lines (parse t).render) = formsOf (lines t) ↔
      ∀ id, (headingsUnder (linesOf t) id).Nodup) ∧
    ((∀ id, (headingsUnder (linesOf t) id).Nodup) →
      Reformatted t (parse t).render ∧
      ∀ {σ : Type} (respond : Program.Responder System σ) (s : σ) (file : Text)
        (check strict : Bool), (respond (.readFile file) s).1.bind Text.ofBytes? = some t →
        ∀ call ∈ ((Formatting.run file check strict).transcript respond s).map
            Program.Exchange.call,
          call = .readFile file ∨
            ∃ canonical, call = .writeFile file canonical ∧ Reformatted t canonical) := by
  obtain ⟨-, -, -, hok, -⟩ := parseStrict_exact t
  obtain ⟨hstrict, rfl⟩ := (hok c).mp h
  have hcanonical := parse_canonical t
  have hforms : formsOf (lines (parse t).render) = (parse t).outline :=
    formsOf_lines_render hcanonical
  have hlossless : formsOf (lines (parse t).render) = formsOf (lines t) ↔
      ∀ id, (headingsUnder (linesOf t) id).Nodup := by
    rw [hforms]
    constructor
    · -- the headings of a document come once, and they are those of the file
      intro hsame id
      have hnodup := nodup_headingsUnder_outline hcanonical.ids
        (fun v hv => (hcanonical.versions v hv).names) id
      have hlines : headingsUnder (parse t).outline id = headingsUnder (linesOf t) id := by
        rw [hsame]
        exact headingsUnder_filter_blank (linesOf t) id
      rw [← hlines]
      exact hnodup
    · intro honce
      exact (Reader.mirrors_readAll hstrict honce).outline
  refine ⟨hlossless, fun honce => ?_⟩
  have hreformatted := reformatted_render hcanonical (hlossless.mpr honce)
  refine ⟨hreformatted, fun respond s file check strict hread call hcall => ?_⟩
  rw [Formatting.calls_run hread h] at hcall
  rcases List.mem_cons.mp hcall with rfl | hcall
  · exact .inl rfl
  · split at hcall
    · cases hcall
    · exact .inr ⟨_, List.mem_singleton.mp hcall, hreformatted⟩

/-- A file in another spelling: carriage returns, a tab, no blank lines, and `head`. -/
theorem parseStrict_lossless_respelled :
    let t : Text := "##\tHead / soon\r\n*  Fix it (#1)\r\n###  Bug  Fixes \r\n* Begin\r\n"
    ∃ c, parseStrict t = .ok c ∧ formsOf (lines (parse t).render) = formsOf (lines t) ∧
      Reformatted t (parse t).render := by
  intro t
  have hlines : linesOf t = .version Version.head (some "soon") ::
      [.change ⟨"Fix it", some "#1"⟩, .heading "Bug  Fixes", .change ⟨"Begin", none⟩] := by
    decide +kernel
  have honce : ∀ id, (headingsUnder (linesOf t) id).Nodup := by
    intro id
    rw [hlines, headingsUnder_version _ rfl]
    split <;> decide
  have hstrict : parseStrict t = .ok (parse t) := by decide +kernel
  obtain ⟨hlossless, hreformatted⟩ := parseStrict_lossless hstrict
  exact ⟨parse t, hstrict, hlossless.mpr honce, (hreformatted honce).1⟩

/-- A careful reader does not object to a section heading that comes again, and what was apart is put
together. -/
example :
    let t : Text := "## 1.0.0\n### Bug Fixes\n  * One\n### Features\n### Bug Fixes\n  * Two\n"
    violations t = [] ∧ formsOf (lines (parse t).render) ≠ formsOf (lines t) := by
  decide +kernel

end Changelog

end MergeScribe
