import Mathlib.Data.List.ModifyLast
import MergeScribe.Proofs.Changelog.Contents

/-!
# A file cut at a version heading

What a version heading and the lines behind it make of the document before them. A heading decides
where the lines behind it belong, whatever came before (`Outline.address?_append_version`), so
headings and changes on both sides are filed as if each side were a file of its own
(`Outline.headingsUnder_append_version`). But the text that a change is wrapped to goes on until the
next change, and no heading ends it: what stands behind the heading before the first change is
joined to the last change in front of it (`Outline.filings_append_version`). Main statement: the
heading of a new version adds that version and leaves the others as they are, but for that text
(`Changelog.parse_append_version`).
-/

namespace MergeScribe

open Text Outline

namespace Outline

variable {before lines : List Line} {line : Line} {id : Text} {date : Option Text}

/-! ## 1. Behind a version heading -/

theorem versionIds_version (more : List Line) :
    versionIds (.version id date :: more) = id :: versionIds more := by
  simp [versionIds, Line.version?]

theorem nearestVersion?_append_version (more : List Line) :
    nearestVersion? (before ++ .version id date :: more) =
      nearestVersion? (.version id date :: more) := by
  unfold nearestVersion?
  rw [versionIds_append, versionIds_version]
  exact List.getLast?_append_of_ne_nil _ (List.cons_ne_nil _ _)

/-- **Where a line behind a version heading belongs does not depend on what is in front of it.** -/
theorem address?_append_version (more : List Line) :
    address? (before ++ .version id date :: more) = address? (.version id date :: more) := by
  induction more using List.reverseRecOn with
  | nil => rw [address?_concat_version, ← List.nil_append [Line.version id date],
      address?_concat_version]
  | append_singleton more line ih =>
      rw [← List.cons_append, ← List.append_assoc]
      cases line with
      | version id' date' => rw [address?_concat_version, address?_concat_version]
      | heading name =>
          rw [address?_concat_heading, address?_concat_heading, nearestVersion?_append_version]
      | change | blank | other => rw [address?_concat rfl rfl, address?_concat rfl rfl, ih]

theorem address?_version_ne_none (more : List Line) :
    address? (.version id date :: more) ≠ none := by
  rw [ne_eq, address?_eq_none_iff, versionIds_version]
  exact List.cons_ne_nil _ _

/-- **Section headings are under a version on both sides of a version heading.** -/
theorem headingsUnder_append_version (more : List Line) (id' : Text) :
    headingsUnder (before ++ .version id date :: more) id' =
      headingsUnder before id' ++ headingsUnder (.version id date :: more) id' := by
  induction more using List.reverseRecOn with
  | nil =>
      have hone : headingsUnder [.version id date] id' = [] := by
        rw [← List.nil_append [Line.version id date], headingsUnder_concat]
        simp [headingsUnder, occurrences, occurrencesAfter, Line.heading?]
      rw [headingsUnder_concat, hone]
      simp [Line.heading?]
  | append_singleton more line ih =>
      rw [← List.cons_append, ← List.append_assoc, headingsUnder_concat, headingsUnder_concat, ih,
        nearestVersion?_append_version, List.append_assoc]

/-- The section headings behind the only version heading are under that version. -/
theorem headingsUnder_version (more : List Line) (hmore : versionIds more = []) (id' : Text) :
    headingsUnder (.version id date :: more) id' =
      if id' = id then more.filterMap Line.heading? else [] := by
  induction more using List.reverseRecOn with
  | nil => simp [headingsUnder, occurrences, occurrencesAfter, Line.heading?]
  | append_singleton more line ih =>
      rw [versionIds_append] at hmore
      have hless : versionIds more = [] := (List.append_eq_nil_iff.mp hmore).1
      have hnearest : nearestVersion? (.version id date :: more) = some id := by
        rw [nearestVersion?, versionIds_version, hless]
        rfl
      rw [← List.cons_append, headingsUnder_concat, ih hless, hnearest, List.filterMap_append,
        filterMap_singleton]
      by_cases hid : id' = id
      · simp [hid]
      · have hne : ¬ some id = some id' := fun e => hid (Option.some.inj e).symm
        simp [hid, hne]

/-! ## 2. Changes, and the text that they are wrapped to -/

/-- The filings with texts joined to the last of them, one after the other. -/
def joinAll (texts : List Text) (filings : List Filing) : List Filing :=
  texts.foldl (fun filings content => joinLast content filings) filings

theorem joinAll_nil (texts : List Text) : joinAll texts [] = [] := by
  induction texts with
  | nil => rfl
  | cons content texts ih => exact ih

theorem joinAll_concat (filings : List Filing) (f : Filing) (texts : List Text) :
    joinAll texts (filings ++ [f]) = filings ++ [{ f with wrapped := f.wrapped ++ texts }] := by
  induction texts generalizing f with
  | nil => simp [joinAll]
  | cons content texts ih =>
      have hjoined : joinLast content (filings ++ [f]) =
          filings ++ [{ f with wrapped := f.wrapped ++ [content] }] := by simp [joinLast]
      have hstep : joinAll (content :: texts) (filings ++ [f]) =
          joinAll texts (joinLast content (filings ++ [f])) := rfl
      rw [hstep, hjoined, ih]
      simp

theorem filings_version (more : List Line) : filings (.version id date :: more) =
    (occurrencesAfter [.version id date] more).filterMap filing? :=
  rfl

/-- **Changes are filed on both sides of a version heading**, and the text behind it up to the first
change is joined to the last change in front. -/
theorem filings_append_version (more : List Line) :
    filings (before ++ .version id date :: more) =
      joinAll (wrapped more) (filings before) ++ filings (.version id date :: more) := by
  induction more using List.reverseRecOn with
  | nil =>
      have hone : filings [Line.version id date] = [] := rfl
      rw [filings_concat_of_not_change rfl rfl, hone, List.append_nil]
      rfl
  | append_singleton more line ih =>
      rw [← List.cons_append, ← List.append_assoc]
      cases line with
      | change e =>
          rw [filings_concat_change, filings_concat_change, ih, address?_append_version,
            wrapped_concat rfl, List.append_assoc]
      | version | heading | blank =>
          rw [filings_concat_of_not_change rfl rfl, filings_concat_of_not_change rfl rfl,
            wrapped_concat rfl, ih]
      | other content =>
          rw [filings_concat_other, filings_concat_other, wrapped_concat_other, ih]
          have haddress : address? [Line.version id date] ≠ none := address?_version_ne_none []
          by_cases hany : more.any Line.isChange = true
          · have hfiled : (occurrencesAfter [.version id date] more).filterMap filing? ≠ [] :=
              filingsAfter_ne_nil haddress hany
            rw [if_pos hany, filings_version, joinLast_append content _ hfiled]
          · have hnone : filings (.version id date :: more) = [] := filingsAfter_eq_nil hany
            have hstep : joinAll (wrapped more ++ [content]) (filings before) =
                joinLast content (joinAll (wrapped more) (filings before)) :=
              List.foldl_concat ..
            rw [if_neg hany, hnone, hstep, List.append_nil]
            simp [joinLast]

/-- Where the change belongs that is filed last. -/
def lastAddress? (lines : List Line) : Option Address :=
  (filings lines).getLast?.map Filing.address

/-- The entries at an address, with the text joined on if the change that is filed last is there. -/
theorem entriesAt_append_version (more : List Line) (a : Address) :
    entriesAt (before ++ .version id date :: more) a =
      (if lastAddress? before = some a then
        (entriesAt before a).modifyLast fun e => (wrapped more).foldl Entry.extend e
      else entriesAt before a) ++ entriesAt (.version id date :: more) a := by
  unfold entriesAt lastAddress?
  rw [filings_append_version, List.filter_append, List.map_append]
  refine congrArg (· ++ _) ?_
  rcases List.eq_nil_or_concat (filings before) with hnone | ⟨earlier, f, hlast⟩
  · simp [hnone, joinAll_nil]
  · rw [List.concat_eq_append] at hlast
    rw [hlast, joinAll_concat, List.getLast?_concat]
    by_cases ha : f.address = a
    · subst ha
      simp [Filing.whole, List.modifyLast_concat]
    · simp [ha]

/-! ## 3. The parts of the document -/

/-- The heading of a new version adds its id. -/
theorem ids_append_version (more : List Line) (hmore : versionIds more = [])
    (hid : id ∉ versionIds before) : ids (before ++ .version id date :: more) =
      if id = Version.head then id :: ids before else ids before ++ [id] := by
  have hids : ids (before ++ .version id date :: more) = ids (before ++ [.version id date]) := by
    simp only [ids, versionIds_append, versionIds_version, hmore]
    rfl
  rw [hids, ids_concat_new hid]

theorem firstDate_append_version (more : List Line) (hmore : versionIds more = [])
    (hid : id ∉ versionIds before) : firstDate (before ++ .version id date :: more) =
      Function.update (firstDate before) id date := by
  have hnone : more.filterMap Line.version? = [] := List.map_eq_nil_iff.mp hmore
  have hdate : firstDate (before ++ .version id date :: more) =
      firstDate (before ++ [.version id date]) := by
    funext id'
    simp [firstDate, Line.version?, hnone]
  rw [hdate, firstDate_concat_version, if_neg hid]

end Outline

/-! ## 4. Documents -/

/-- The version with the entries in each place changed. -/
def Version.mapEntries (v : Version) (f : Place → List Entry → List Entry) : Version :=
  { v with
    entries := f .direct v.entries
    sections := v.sections.map fun s => { s with entries := f (.under s.name) s.entries } }

/-- The version with texts joined to its last entry at an address, if the address is in it. -/
def Version.continued (last : Option Address) (texts : List Text) (v : Version) : Version :=
  v.mapEntries fun place entries =>
    if last = some ⟨v.id, place⟩ then entries.modifyLast fun e => texts.foldl Entry.extend e
    else entries

section Documents

variable {before more : List Line} {id : Text} {date : Option Text}

/-- Nothing behind the only version heading belongs to another version. -/
theorem entriesAt_version_of_ne {id' : Text} (hmore : versionIds more = []) (hid' : id' ≠ id)
    (place : Place) : Outline.entriesAt (.version id date :: more) ⟨id', place⟩ = [] := by
  refine entriesAt_eq_nil_of_id ?_ place
  rw [versionIds_version, hmore]
  exact fun hm => hid' (List.mem_singleton.mp hm)

/-- A version that was there before has its last entry continued, if that is the entry of the change
that is filed last. -/
theorem Version.ofParts_append_old {id' : Text} (hmore : versionIds more = [])
    (hid : id ∉ versionIds before) (hid' : id' ≠ id) :
    let lines := before ++ .version id date :: more
    Version.ofParts (firstDate lines) (sectionNames lines) (Outline.entriesAt lines) id' =
      (Version.ofParts (firstDate before) (sectionNames before) (Outline.entriesAt before)
        id').continued (lastAddress? before) (wrapped more) := by
  intro lines
  have hdate : firstDate lines id' = firstDate before id' := by
    rw [firstDate_append_version more hmore hid, Function.update_of_ne hid']
  have hnames : sectionNames lines id' = sectionNames before id' := by
    rw [sectionNames, headingsUnder_append_version, headingsUnder_version more hmore, if_neg hid',
      List.append_nil, sectionNames]
  have hentries (place : Place) : Outline.entriesAt lines ⟨id', place⟩ =
      if lastAddress? before = some ⟨id', place⟩ then
        (Outline.entriesAt before ⟨id', place⟩).modifyLast fun e =>
          (wrapped more).foldl Entry.extend e
      else Outline.entriesAt before ⟨id', place⟩ := by
    rw [entriesAt_append_version, entriesAt_version_of_ne hmore hid', List.append_nil]
  simp only [Version.ofParts, Version.continued, Version.mapEntries, hdate, hnames, hentries,
    List.map_map]
  rfl

/-- The new version is what it would be in a file of its own. -/
theorem Version.ofParts_append_new (hmore : versionIds more = [])
    (hid : id ∉ versionIds before) :
    let lines := before ++ .version id date :: more
    let own := .version id date :: more
    Version.ofParts (firstDate lines) (sectionNames lines) (Outline.entriesAt lines) id =
      Version.ofParts (firstDate own) (sectionNames own) (Outline.entriesAt own) id := by
  intro lines own
  have hdate : firstDate lines id = firstDate own id := by
    rw [firstDate_append_version more hmore hid, Function.update_self]
    simp [own, firstDate, Line.version?]
  have hnames : sectionNames lines id = sectionNames own id := by
    rw [sectionNames, headingsUnder_append_version, headingsUnder_eq_nil hid, List.nil_append,
      sectionNames]
  refine Version.ofParts_congr hdate hnames fun place => ?_
  rw [entriesAt_append_version, entriesAt_eq_nil_of_id hid]
  exact congrArg (· ++ _) (ite_self [])

/-- **The heading of a new version adds that version**, in front if it is `HEAD` and else at the end,
and it leaves the other versions as they are, but for the text that continues the last change. -/
theorem Changelog.grouped_append_version (hmore : versionIds more = [])
    (hid : id ∉ versionIds before) :
    let old := (grouped before).versions.map
      (Version.continued (lastAddress? before) (wrapped more))
    let new := (grouped (.version id date :: more)).versions
    (grouped (before ++ .version id date :: more)).versions =
      if id = Version.head then new ++ old else old ++ new := by
  intro old new
  let lines := before ++ .version id date :: more
  let version := Version.ofParts (firstDate lines) (sectionNames lines) (Outline.entriesAt lines)
  have hold : (ids before).map version = old := by
    refine (List.map_congr_left fun id' hid' => ?_).trans (List.map_map ..).symm
    have hne : id' ≠ id := fun e => hid (mem_ids.mp (e ▸ hid'))
    exact Version.ofParts_append_old hmore hid hne
  have hnew : [version id] = new := by
    have hids : ids (.version id date :: more) = [id] := by
      have hone : ids ([] ++ .version id date :: more) =
          if id = Version.head then id :: ids [] else ids [] ++ [id] :=
        ids_append_version more hmore List.not_mem_nil
      exact hone.trans (ite_self [id])
    show _ = (ids (.version id date :: more)).map _
    rw [hids, List.map_singleton]
    exact congrArg (fun v => [v]) (Version.ofParts_append_new hmore hid)
  show (ids lines).map version = _
  rw [ids_append_version more hmore hid, ← hold, ← hnew]
  split
  · rfl
  · exact List.map_append ..

end Documents

/-! ## 5. What text does to a version -/

/-- Text that is joined to an entry is written after it, behind a space. -/
theorem Entry.length_extend (e : Entry) (t : Text) :
    (entryText (e.extend t)).length = (entryText e).length + (t.length + 1) := by
  obtain ⟨summary, reference⟩ := e
  cases reference with
  | some r =>
      simp only [Entry.extend, entryText, List.length_append, List.length_cons]
      omega
  | none =>
      have htext : entryText (Entry.extend ⟨summary, none⟩ t) = summary ++ ' ' :: t :=
        entryText_ofText _
      rw [htext, List.length_append, List.length_cons]
      rfl

/-- **An entry that texts are joined to is another one.** -/
theorem Entry.foldl_extend_eq_self_iff {e : Entry} {texts : List Text} :
    texts.foldl Entry.extend e = e ↔ texts = [] := by
  have hgrows (texts : List Text) (e : Entry) :
      (entryText e).length + texts.length ≤ (entryText (texts.foldl Entry.extend e)).length := by
    induction texts generalizing e with
    | nil => exact Nat.le_refl _
    | cons t texts ih =>
        have hmore := ih (e.extend t)
        have hone := e.length_extend t
        rw [List.foldl_cons, List.length_cons]
        omega
  constructor
  · intro h
    have hlength := hgrows texts e
    rw [h] at hlength
    exact List.length_eq_zero_iff.mp (by omega)
  · rintro rfl
    rfl

theorem modifyLast_eq_self {α : Type} {f : α → α} {l : List α} (h : ∀ a ∈ l, f a = a) :
    l.modifyLast f = l := by
  rcases List.eq_nil_or_concat l with rfl | ⟨earlier, a, rfl⟩
  · rfl
  · rw [List.concat_eq_append] at h ⊢
    rw [List.modifyLast_concat, h a (List.mem_append_right _ (List.mem_singleton_self a))]

namespace Version

variable {last : Option Address} {texts : List Text} {v : Version}

/-- What is continued in a version. -/
theorem entriesAt_continued (place : Place) : (v.continued last texts).entriesAt place =
    if last = some ⟨v.id, place⟩ then
      (v.entriesAt place).modifyLast fun e => texts.foldl Entry.extend e
    else v.entriesAt place := by
  cases place with
  | direct => rfl
  | under name =>
      have hsection : (v.continued last texts).section? name = (v.section? name).map fun s =>
          { s with entries := if last = some ⟨v.id, .under s.name⟩ then
              s.entries.modifyLast fun e => texts.foldl Entry.extend e else s.entries } :=
        List.find?_map ..
      rw [Version.entriesAt, Version.entriesAt, hsection]
      cases hfind : v.section? name with
      | none => exact (ite_self []).symm
      | some s =>
          have hname : s.name = name := by simpa using List.find?_some hfind
          rw [← hname]
          rfl

/-- A version in which nothing is continued is as it was. -/
theorem continued_eq_self (h : texts = [] ∨ ∀ a, last = some a → a.id ≠ v.id) :
    v.continued last texts = v := by
  have hentries (place : Place) (entries : List Entry) :
      (if last = some ⟨v.id, place⟩ then entries.modifyLast fun e => texts.foldl Entry.extend e
        else entries) = entries := by
    split
    · rename_i ha
      rcases h with rfl | h
      · exact modifyLast_eq_self fun _ _ => rfl
      · exact absurd rfl (h _ ha)
    · rfl
  unfold Version.continued Version.mapEntries
  simp only [hentries, List.map_id']

end Version

/-! ## 6. Files -/

namespace Changelog

/-- A file that ends in a line feed may go on with another. -/
theorem linesOf_append {t : Text} (ht : t.getLast? = some '\n') (rest : Text) :
    linesOf (t ++ rest) = linesOf t ++ linesOf rest := by
  obtain ⟨upTo, rfl⟩ := List.getLast?_eq_some_iff.mp ht
  unfold linesOf
  rw [List.append_assoc, List.singleton_append, lines_append, List.map_append]

/-- The entry of the change that is filed last is the last one at its address. -/
theorem entriesAt_of_lastAddress? {lines : List Line} {a : Address}
    (h : lastAddress? lines = some a) :
    ∃ earlier e, Outline.entriesAt lines a = earlier ++ [e] := by
  obtain ⟨f, hf, rfl⟩ := Option.map_eq_some_iff.mp h
  obtain ⟨others, hlast⟩ := List.getLast?_eq_some_iff.mp hf
  refine ⟨(others.filter fun g => g.address = f.address).map Filing.whole, f.whole, ?_⟩
  unfold Outline.entriesAt
  rw [hlast, List.filter_append, List.map_append]
  simp

/-- A version has in each place what belongs there. -/
theorem entriesAt_of_mem_grouped {lines : List Line} {v : Version}
    (h : v ∈ (grouped lines).versions) (place : Place) :
    v.entriesAt place = Outline.entriesAt lines ⟨v.id, place⟩ := by
  obtain ⟨id, -, rfl⟩ := List.mem_map.mp h
  exact Version.entriesAt_ofParts entriesAt_eq_nil_of_name id place

/-- **A version is continued when there is text and the change that is filed last is in it**, and
otherwise it is as it was. -/
theorem continued_eq_self_iff {lines : List Line} {texts : List Text} {v : Version}
    (hv : v ∈ (grouped lines).versions) : v.continued (lastAddress? lines) texts = v ↔
      texts = [] ∨ ∀ a, lastAddress? lines = some a → a.id ≠ v.id := by
  refine ⟨fun hsame => ?_, Version.continued_eq_self⟩
  refine Classical.or_iff_not_imp_right.mpr fun hin => ?_
  obtain ⟨a, ha⟩ := Classical.not_forall.mp hin
  obtain ⟨hlast, hid⟩ := Classical.not_imp.mp ha
  obtain ⟨earlier, e, hentries⟩ := entriesAt_of_lastAddress? hlast
  have haddress : (⟨v.id, a.place⟩ : Address) = a := by rw [← Classical.not_not.mp hid]
  have hbefore : v.entriesAt a.place = earlier ++ [e] := by
    rw [entriesAt_of_mem_grouped hv, haddress, hentries]
  have hafter : v.entriesAt a.place = earlier ++ [texts.foldl Entry.extend e] := by
    rw [← hsame, Version.entriesAt_continued, haddress, if_pos hlast, hbefore,
      List.modifyLast_concat]
  have hlasts : [texts.foldl Entry.extend e] = [e] :=
    List.append_cancel_left (hafter.symm.trans hbefore)
  exact Entry.foldl_extend_eq_self_iff.mp (List.singleton_inj.mp hlasts)

section Files

variable {t rest : Text} {id : Text} {date : Option Text} {more : List Line}

/-- **The heading of a new version adds that version, and leaves the others but for text.** When a
file goes on with the heading of a version that it does not have, and with lines among which there is
no other version heading, then the new version is what it would be in a file of its own. Every
version that was there is found with the same id, date and sections, and with the same entries in
each place, except that text behind the heading up to the first change there is joined to the change
that is filed last in front of it, wherever that is. So a version is found unchanged exactly when
there is no such text or that change is not in it. -/
theorem parse_append_version (ht : t.getLast? = some '\n')
    (hrest : linesOf rest = .version id date :: more) (hmore : versionIds more = [])
    (hid : id ∉ versionIds (linesOf t)) :
    let last := lastAddress? (linesOf t)
    let texts := wrapped more
    let old := (parse t).versions.map (Version.continued last texts)
    let new := (parse rest).versions
    (parse (t ++ rest)).versions = (if id = Version.head then new ++ old else old ++ new) ∧
    ∀ v ∈ (parse t).versions, ∃ v' ∈ (parse (t ++ rest)).versions,
      v'.id = v.id ∧ v'.date = v.date ∧
      v'.sections.map Section.name = v.sections.map Section.name ∧
      (∀ place, v'.entriesAt place =
        if last = some ⟨v.id, place⟩ then
          (v.entriesAt place).modifyLast fun e => texts.foldl Entry.extend e
        else v.entriesAt place) ∧
      (v' = v ↔ texts = [] ∨ ∀ a, last = some a → a.id ≠ v.id) := by
  intro last texts old new
  have hversions : (parse (t ++ rest)).versions =
      if id = Version.head then new ++ old else old ++ new := by
    have hgrouped := @grouped_append_version (linesOf t) more id date hmore hid
    rw [← hrest, ← linesOf_append ht, ← parse_eq, ← parse_eq, ← parse_eq] at hgrouped
    exact hgrouped
  refine ⟨hversions, fun v hv => ⟨v.continued last texts, ?_, rfl, rfl, ?_, ?_, ?_⟩⟩
  · have hold : v.continued last texts ∈ old := List.mem_map_of_mem hv
    rw [hversions]
    split
    · exact List.mem_append_right _ hold
    · exact List.mem_append_left _ hold
  · exact List.map_map ..
  · exact Version.entriesAt_continued
  · rw [parse_eq] at hv
    exact continued_eq_self_iff hv

end Files

/-- Text under the heading of an older version continues the last change of the newer one. -/
theorem parse_append_version_stray :
    let t : Text := "## 1.0.0\n\n  * Fix it (#1)\n"
    let rest : Text := "## 0.9.0\n\nIn the spring\n\n  * Begin\n"
    (parse (t ++ rest)).versions =
      [⟨"1.0.0", none, [⟨"Fix it In the spring", some "#1"⟩], []⟩,
        ⟨"0.9.0", none, [⟨"Begin", none⟩], []⟩] := by
  intro t rest
  have hrest : linesOf rest = [.version "0.9.0" none, .blank, .other "In the spring", .blank,
      .change ⟨"Begin", none⟩] := by
    decide +kernel
  have hid : ("0.9.0" : Text) ∉ versionIds (linesOf t) := by decide +kernel
  obtain ⟨hversions, -⟩ := parse_append_version rfl hrest rfl hid
  rw [hversions]
  decide +kernel

/-- **A version is not safe from text under another one.** The heading of a version does not end the
last entry in front of it. -/
theorem not_parse_append_version_unchanged :
    ¬ ∀ (t rest id : Text) (date : Option Text) (more : List Line), t.getLast? = some '\n' →
      linesOf rest = .version id date :: more → versionIds more = [] →
      id ∉ versionIds (linesOf t) →
      ∀ v ∈ (parse t).versions, v ∈ (parse (t ++ rest)).versions := by
  intro h
  have hmem := h "## 1.0.0\n\n  * Fix it (#1)\n" "## 0.9.0\n\nstray text\n" "0.9.0" none
    [.blank, .other "stray text"] rfl (by decide +kernel) rfl (by decide +kernel)
    ⟨"1.0.0", none, [⟨"Fix it", some "#1"⟩], []⟩ (by decide +kernel)
  revert hmem
  decide +kernel

end Changelog

end MergeScribe
