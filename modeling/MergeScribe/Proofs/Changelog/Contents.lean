import MergeScribe.Proofs.Changelog.Reading
import MergeScribe.Proofs.Changelog.Tracking

/-!
# What a file holds

The document of a file is the one that its lines stand for, and nothing else of the file is lost
than what stands before there is anything it could belong to. Main statements: the text of a change
gains a reference when it first ends in one, and keeps it (`Entry.gathers_foldl`); the changes that
are filed are those from the first version heading on (`Outline.map_entry_filings`), and the texts
joined to them are those from the first of these changes on (`Outline.flatMap_wrapped_filings`);
and the document that lines stand for has at each address what belongs there
(`Changelog.entriesAt_grouped`). Together: `Changelog.parse_holds`.
-/

namespace MergeScribe

open Text Outline

/-! ## 1. The text of a change -/

/-- What an entry and the texts that its line was wrapped to come to. The first reference that the
text, as far as it is read, ends in is taken off and kept, and all other text is the summary. -/
inductive Entry.Gathers (e : Entry) (texts : List Text) : Entry → Prop
  | referred {r : Text} (h : e.reference = some r) :
      Gathers e texts ⟨joined " " (e.summary :: texts), some r⟩
  | plain (h : e.reference = none)
      (never : ∀ early, early <+: texts → ¬ EndsInReference (joined " " (e.summary :: early))) :
      Gathers e texts ⟨joined " " (e.summary :: texts), none⟩
  | found {early late : List Text} {before r : Text} (h : e.reference = none)
      (cut : texts = early ++ late)
      (ends : joined " " (e.summary :: early) = before ++ (" (" ++ r ++ ")")) (hb : before ≠ [])
      (hr : isReference r = true)
      (first : ∀ less, less <+: early → less ≠ early →
        ¬ EndsInReference (joined " " (e.summary :: less))) :
      Gathers e texts ⟨joined " " (before :: late), some r⟩

theorem joined_extended (t c : Text) (texts : List Text) :
    joined " " ((t ++ ' ' :: c) :: texts) = joined " " (t :: c :: texts) := by
  cases texts with
  | nil => simp [joined]
  | cons d texts => simp [joined]

theorem joined_singleton (t : Text) : joined " " [t] = t :=
  List.intercalate_singleton

/-- A reference stays, whatever the texts end in. -/
theorem Entry.foldl_extend_referred (r : Text) : (texts : List Text) → (summary : Text) →
    texts.foldl Entry.extend ⟨summary, some r⟩ = ⟨joined " " (summary :: texts), some r⟩
  | [], summary => by rw [joined_singleton, List.foldl_nil]
  | c :: texts, summary => by
      have hstep : Entry.extend ⟨summary, some r⟩ c = ⟨summary ++ ' ' :: c, some r⟩ := rfl
      rw [List.foldl_cons, hstep, foldl_extend_referred r texts, joined_extended]

/-- A text that does not end in a reference may do so after some of the next texts. -/
theorem Entry.gathers_foldl_plain : (texts : List Text) → {summary : Text} →
    ¬ EndsInReference summary →
      Gathers ⟨summary, none⟩ texts (texts.foldl Entry.extend ⟨summary, none⟩)
  | [], summary, h => by
      have hnone : Gathers ⟨summary, none⟩ [] ⟨joined " " [summary], none⟩ :=
        .plain rfl fun early hpre => by
          rw [List.prefix_nil.mp hpre, joined_singleton]
          exact h
      rwa [joined_singleton] at hnone
  | c :: texts, summary, h => by
      have hstep : Entry.extend ⟨summary, none⟩ c = Entry.ofText (summary ++ ' ' :: c) := rfl
      have htwo : joined " " [summary, c] = summary ++ ' ' :: c := by
        rw [← joined_extended, joined_singleton]
      rw [List.foldl_cons, hstep, Entry.ofText]
      rcases splitReference_cases (summary ++ ' ' :: c) with ⟨before, r, e, hb, hr, ht⟩ | ⟨e, hn⟩
      · -- the first of the texts completes a reference, and the others are summary
        rw [e, foldl_extend_referred]
        have hends : joined " " [summary, c] = before ++ (" (" ++ r ++ ")") := htwo.trans ht
        refine .found rfl (List.singleton_append).symm hends hb hr fun less hpre hne => ?_
        rcases List.prefix_cons_iff.mp hpre with rfl | ⟨rest, rfl, hrest⟩
        · rw [joined_singleton]
          exact h
        · exact absurd (congrArg (c :: ·) (List.prefix_nil.mp hrest)) hne
      · rw [e]
        have ih := gathers_foldl_plain texts hn
        have hlonger (early : List Text) (hearly : ¬ EndsInReference
            (joined " " ((summary ++ ' ' :: c) :: early))) :
            ¬ EndsInReference (joined " " (summary :: c :: early)) := by
          rwa [joined_extended] at hearly
        generalize texts.foldl Entry.extend ⟨summary ++ ' ' :: c, none⟩ = whole at ih
        cases ih with
        | referred hsome => cases hsome
        | plain _ never =>
            rw [joined_extended]
            refine .plain rfl fun early hpre => ?_
            rcases List.prefix_cons_iff.mp hpre with rfl | ⟨rest, rfl, hrest⟩
            · rw [joined_singleton]
              exact h
            · exact hlonger rest (never rest hrest)
        | @found early late before r _ cut ends hb hr first =>
            rw [joined_extended] at ends
            refine .found rfl (congrArg (c :: ·) cut) ends hb hr fun less hpre hne => ?_
            rcases List.prefix_cons_iff.mp hpre with rfl | ⟨rest, rfl, hrest⟩
            · rw [joined_singleton]
              exact h
            · exact hlonger rest (first rest hrest fun e => hne (congrArg (c :: ·) e))

/-- **A change gains a reference when its text first ends in one, and keeps it.** -/
theorem Entry.gathers_foldl (texts : List Text) {e : Entry}
    (he : e.reference = none → ¬ EndsInReference e.summary) :
    e.Gathers texts (texts.foldl Entry.extend e) := by
  obtain ⟨summary, reference⟩ := e
  cases reference with
  | some r =>
      rw [foldl_extend_referred]
      exact .referred rfl
  | none => exact gathers_foldl_plain texts (he rfl)

/-! ## 2. What is filed -/

/-- What a change line is taken for. -/
def Line.change? : Line → Option Entry
  | .change e => some e
  | _ => none

/-- The lines from the first version heading on. -/
def Outline.fromVersion (lines : List Line) : List Line :=
  lines.dropWhile fun line => line.version?.isNone

/-- The lines from the first change on. -/
def Outline.fromChange (lines : List Line) : List Line :=
  lines.dropWhile fun line => !line.isChange

namespace Outline

variable {before lines : List Line}

/-- Before the first version heading nothing is filed, and behind it there is somewhere to file. -/
theorem filingsAfter_fromVersion (h : versionIds before = []) :
    (occurrencesAfter before lines).filterMap filing? = [] ∧ fromVersion lines = [] ∨
    ∃ upTo heading more, fromVersion lines = heading :: more ∧ heading.version? ≠ none ∧
      address? upTo ≠ none ∧ (occurrencesAfter before lines).filterMap filing? =
        (occurrencesAfter upTo more).filterMap filing? := by
  induction lines generalizing before with
  | nil => exact .inl ⟨rfl, rfl⟩
  | cons line lines ih =>
      have ha : address? before = none := address?_eq_none_iff.mpr h
      have hnone : filing? ⟨before, line, lines⟩ = none := by
        cases line <;> simp [filing?, ha]
      rw [occurrencesAfter, List.filterMap_cons, hnone]
      cases hv : line.version? with
      | none =>
          have hfrom : fromVersion (line :: lines) = fromVersion lines := by simp [fromVersion, hv]
          have hids : versionIds (before ++ [line]) = [] := by simp [h, hv]
          rw [hfrom]
          exact ih hids
      | some heading =>
          refine .inr
            ⟨before ++ [line], line, lines, by simp [fromVersion, hv], by simp [hv], ?_, rfl⟩
          rw [ne_eq, address?_eq_none_iff, versionIds_concat, hv]
          simp

/-- Behind a version heading every change is filed. -/
theorem map_entry_filingsAfter (h : address? before ≠ none) :
    ((occurrencesAfter before lines).filterMap filing?).map Filing.entry =
      lines.filterMap Line.change? := by
  induction lines generalizing before with
  | nil => rfl
  | cons line lines ih =>
      obtain ⟨a, ha⟩ := Option.ne_none_iff_exists'.mp h
      have hmore := @ih (before ++ [line]) (address?_ne_none_concat h)
      rw [occurrencesAfter, List.filterMap_cons, List.filterMap_cons]
      cases line with
      | change e =>
          simp only [filing?, ha, Option.map_some, List.map_cons, Line.change?]
          exact congrArg (e :: ·) hmore
      | _ => exact hmore

/-- **Every change from the first version heading on is filed once, in the order of the file.** -/
theorem map_entry_filings (lines : List Line) :
    (filings lines).map Filing.entry = (fromVersion lines).filterMap Line.change? := by
  rcases @filingsAfter_fromVersion [] lines rfl with
    ⟨hnone, hfrom⟩ | ⟨upTo, heading, more, hfrom, hv, ha, hrest⟩
  · rw [filings, occurrences, hnone, hfrom]
    rfl
  · rw [filings, occurrences, hrest, map_entry_filingsAfter ha, hfrom]
    cases heading with
    | version id date => rfl
    | _ => exact absurd rfl hv

/-- What a change is wrapped to, and what follows from the next change on, is all other text. -/
theorem wrapped_append_fromChange (after : List Line) :
    wrapped after ++ (fromChange after).filterMap Line.other? = after.filterMap Line.other? := by
  rw [wrapped, fromChange, ← List.filterMap_append, List.takeWhile_append_dropWhile]

/-- Behind a version heading all text from the first change on is joined to a change. -/
theorem flatMap_wrapped_filingsAfter (h : address? before ≠ none) :
    ((occurrencesAfter before lines).filterMap filing?).flatMap Filing.wrapped =
      (fromChange lines).filterMap Line.other? := by
  induction lines generalizing before with
  | nil => rfl
  | cons line lines ih =>
      obtain ⟨a, ha⟩ := Option.ne_none_iff_exists'.mp h
      have hmore := @ih (before ++ [line]) (address?_ne_none_concat h)
      rw [occurrencesAfter, List.filterMap_cons]
      cases line with
      | change e =>
          simp only [filing?, ha, Option.map_some, List.flatMap_cons]
          rw [hmore, wrapped_append_fromChange]
          rfl
      | _ => exact hmore

/-- **All other text is joined to a change, from the first change that is filed on.** -/
theorem flatMap_wrapped_filings (lines : List Line) :
    (filings lines).flatMap Filing.wrapped =
      (fromChange (fromVersion lines)).filterMap Line.other? := by
  rcases @filingsAfter_fromVersion [] lines rfl with
    ⟨hnone, hfrom⟩ | ⟨upTo, heading, more, hfrom, hv, ha, hrest⟩
  · rw [filings, occurrences, hnone, hfrom]
    rfl
  · rw [filings, occurrences, hrest, flatMap_wrapped_filingsAfter ha, hfrom]
    cases heading with
    | version id date => rfl
    | _ => exact absurd rfl hv

/-- What is filed was a line of the file. -/
theorem change_mem_of_mem_filings {f : Filing} (h : f ∈ filings lines) :
    .change f.entry ∈ lines := by
  obtain ⟨before, after, rfl, -⟩ := exists_address?_of_mem_filings h
  exact List.mem_append_right _ List.mem_cons_self

/-- A section heading behind a version heading makes a section of that version. -/
theorem mem_sectionNames_of_heading {after : List Line} {name id : Text}
    (hcut : lines = before ++ .heading name :: after) (hid : nearestVersion? before = some id) :
    name ∈ sectionNames lines id :=
  List.mem_eraseDups.mpr (mem_headingsUnder.mpr ⟨before, after, hcut, hid⟩)

end Outline

/-! ## 3. Looking into the document -/

theorem find?_of_mem {α : Type} [BEq α] [LawfulBEq α] {l : List α} {a : α} (h : a ∈ l) :
    l.find? (fun b => b == a) = some a := by
  cases hfind : l.find? fun b => b == a with
  | none =>
      have hne := List.find?_eq_none.mp hfind a h
      simp at hne
  | some b =>
      obtain rfl : b = a := by simpa using List.find?_some hfind
      rfl

theorem Version.entriesAt_ofParts {date : Text → Option Text} {names : Text → List Text}
    {entries : Address → List Entry}
    (hname : ∀ {id name}, name ∉ names id → entries ⟨id, .under name⟩ = []) (id : Text)
    (place : Place) :
    (Version.ofParts date names entries id).entriesAt place = entries ⟨id, place⟩ := by
  cases place with
  | direct => rfl
  | under name =>
      have hfind : (Version.ofParts date names entries id).section? name =
          ((names id).find? fun name' => name' == name).map
            fun name => ⟨name, entries ⟨id, .under name⟩⟩ := by
        rw [Version.section?, Version.ofParts, List.find?_map]
        rfl
      rw [Version.entriesAt, hfind]
      by_cases h : name ∈ names id
      · rw [find?_of_mem h]
        rfl
      · have hnone : (names id).find? (fun name' => name' == name) = none :=
          List.find?_eq_none.mpr fun name' hname' => by simpa using ne_of_mem_of_not_mem hname' h
        rw [hnone, hname h]
        rfl

theorem Changelog.entriesAt_ofParts {ids : List Text} {date : Text → Option Text}
    {names : Text → List Text} {entries : Address → List Entry}
    (hid : ∀ {id}, id ∉ ids → ∀ place, entries ⟨id, place⟩ = [])
    (hname : ∀ {id name}, name ∉ names id → entries ⟨id, .under name⟩ = []) (a : Address) :
    (Changelog.ofParts ids date names entries).entriesAt a.id a.place = entries a := by
  have hfind : (Changelog.ofParts ids date names entries).version? a.id =
      (ids.find? fun id => id == a.id).map (Version.ofParts date names entries) := by
    rw [Changelog.version?, Changelog.ofParts, List.find?_map]
    rfl
  rw [Changelog.entriesAt, hfind]
  by_cases h : a.id ∈ ids
  · rw [find?_of_mem h]
    exact Version.entriesAt_ofParts hname a.id a.place
  · have hnone : ids.find? (fun id => id == a.id) = none :=
      List.find?_eq_none.mpr fun id hmem => by simpa using ne_of_mem_of_not_mem hmem h
    rw [hnone]
    exact (hid h a.place).symm

/-- **The document that lines stand for has at each address what belongs there.** -/
theorem Changelog.entriesAt_grouped (lines : List Line) (a : Address) :
    (grouped lines).entriesAt a.id a.place = Outline.entriesAt lines a :=
  entriesAt_ofParts (fun h => entriesAt_eq_nil_of_id (mt mem_ids.mpr h)) entriesAt_eq_nil_of_name a

/-! ## 4. Files -/

theorem classify_other {line content : Text} (h : classify line = .other content) :
    content = trim line := by
  unfold classify at h
  split at h
  · cases h
  split at h
  · cases h
  split at h
  · cases h
  split at h
  · cases h
  · exact (Line.other.inj h).symm

/-- **What a file holds.** The document is the one that the lines stand for; each address has what
belongs there. Every change from the first version heading on is filed once and in order, and so is
every section heading behind a version heading; all other text from the first of these changes on is
joined to the change before it, and each change keeps the first reference that its text ends in. -/
theorem Changelog.parse_holds (t : Text) :
    parse t = grouped (linesOf t) ∧
    (∀ a : Address, (parse t).entriesAt a.id a.place =
      ((filings (linesOf t)).filter fun f => f.address = a).map Filing.whole) ∧
    (filings (linesOf t)).map Filing.entry =
      (fromVersion (linesOf t)).filterMap Line.change? ∧
    (∀ before name after, linesOf t = before ++ .heading name :: after →
      versionIds before = [] ∨
        ∃ id, nearestVersion? before = some id ∧ name ∈ sectionNames (linesOf t) id) ∧
    (filings (linesOf t)).flatMap Filing.wrapped =
      (fromChange (fromVersion (linesOf t))).filterMap Line.other? ∧
    (∀ line content, classify line = .other content → content = trim line) ∧
    (∀ f ∈ filings (linesOf t), f.entry.Gathers f.wrapped f.whole) := by
  refine ⟨parse_eq t, fun a => ?_, map_entry_filings _, fun before name after hcut => ?_,
    flatMap_wrapped_filings _, fun line content => classify_other, fun f hf => ?_⟩
  · rw [parse_eq]
    exact entriesAt_grouped _ a
  · cases hid : nearestVersion? before with
    | none => exact .inl (nearestVersion?_eq_none_iff.mp hid)
    | some id => exact .inr ⟨id, rfl, mem_sectionNames_of_heading hcut hid⟩
  · have hsound : f.entry.Canonical := linesOf_sound _ (change_mem_of_mem_filings hf)
    exact Entry.gathers_foldl f.wrapped fun hnone => (hsound.plain hnone).2

/-- `HEAD` comes late, one version is met twice, and a change is wrapped. -/
example : Changelog.parse
    "* Lost\n## v1.0\n* Two\nlines (#1)\n## head\n### Bugs\n* One\n## v1.0 / May\n* Three\n" =
      ⟨[⟨Version.head, none, [], [⟨"Bugs", [⟨"One", none⟩]⟩]⟩,
        ⟨"v1.0", none, [⟨"Two lines", some "#1"⟩, ⟨"Three", none⟩], []⟩]⟩ := by
  decide +kernel

end MergeScribe
