import Mathlib.Data.List.DropRight
import Mathlib.Data.List.Nodup
import MergeScribe.Changelog.Reader
import MergeScribe.Proofs.Changelog.Editing

/-!
# The document that lines stand for

What the lines of a file stand for, said without a reader: each change belongs to the nearest
version heading before it and to the nearest section heading since that, other text belongs to the
nearest change before it, and versions and sections come in the order in which their first headings
do, with `HEAD` in front. Main definition: `Changelog.grouped`. Main statements: what one more line
does to its parts (`ids_concat_new`, `sectionNames_concat_heading`, `filings_concat_change`,
`filings_concat_other`), and that nothing belongs where no heading is (`entriesAt_eq_nil_of_id`,
`entriesAt_eq_nil_of_name`, `sectionNames_eq_nil`).
-/

namespace MergeScribe

/-! ## 1. Lines in their file -/

namespace Line

/-- The id and the date of a version heading. -/
def version? : Line → Option (Text × Option Text)
  | .version id date => some (id, date)
  | _ => none

/-- The name of a section heading. -/
def heading? : Line → Option Text
  | .heading name => some name
  | _ => none

/-- The text of a line that is of no other form. -/
def other? : Line → Option Text
  | .other content => some content
  | _ => none

/-- Whether the line is a change. -/
def isChange : Line → Bool
  | .change _ => true
  | _ => false

end Line

/-- A line with the lines of its file before and after it. -/
structure Occurrence where
  before : List Line
  line : Line
  after : List Line

/-- Where an entry belongs: a version and a place in it. -/
structure Address where
  id : Text
  place : Place
  deriving DecidableEq, Repr

/-- An entry as it is filed: where it belongs, what its line is taken for, and the texts that the
line was wrapped to. -/
structure Filing where
  address : Address
  entry : Entry
  wrapped : List Text
  deriving DecidableEq, Repr

/-- The entry with the texts of its wrapped lines joined on. -/
def Filing.whole (f : Filing) : Entry :=
  f.wrapped.foldl Entry.extend f.entry

namespace Outline

/-- Lines that follow others, each with the lines before and after it. -/
def occurrencesAfter (before : List Line) : List Line → List Occurrence
  | [] => []
  | line :: after => ⟨before, line, after⟩ :: occurrencesAfter (before ++ [line]) after

/-- The lines of a file, each with the lines before and after it. -/
def occurrences (lines : List Line) : List Occurrence :=
  occurrencesAfter [] lines

/-! ## 2. Where lines belong -/

/-- The ids of the version headings. -/
def versionIds (lines : List Line) : List Text :=
  (lines.filterMap Line.version?).map Prod.fst

/-- The id of the last version heading. -/
def nearestVersion? (before : List Line) : Option Text :=
  (versionIds before).getLast?

/-- The lines since the last version heading. -/
def sinceVersion (before : List Line) : List Line :=
  before.rtakeWhile fun line => line.version?.isNone

/-- The place of the last section heading since the last version heading. -/
def nearestPlace (before : List Line) : Place :=
  match ((sinceVersion before).filterMap Line.heading?).getLast? with
  | none => .direct
  | some name => .under name

/-- Where a change after these lines belongs; nowhere without a version heading. -/
def address? (before : List Line) : Option Address :=
  (nearestVersion? before).map fun id => ⟨id, nearestPlace before⟩

/-! ## 3. The parts of the document -/

/-- The ids with `HEAD` in front, if it is among them. -/
def headFirst (ids : List Text) : List Text :=
  ids.filter (fun id => id = Version.head) ++ ids.filter fun id => id ≠ Version.head

/-- The ids of the versions: each once, in the order of first headings, `HEAD` in front. -/
def ids (lines : List Line) : List Text :=
  headFirst (versionIds lines).eraseDups

/-- The date in the first heading of a version. -/
def firstDate (lines : List Line) (id : Text) : Option Text :=
  ((lines.filterMap Line.version?).lookup id).join

/-- The names in the section headings under any heading of a version. -/
def headingsUnder (lines : List Line) (id : Text) : List Text :=
  (occurrences lines).filterMap fun o =>
    if nearestVersion? o.before = some id then o.line.heading? else none

/-- The names of the sections of a version: each once, in the order of first headings. -/
def sectionNames (lines : List Line) (id : Text) : List Text :=
  (headingsUnder lines id).eraseDups

/-- The texts that a change was wrapped to: those of the lines up to the next change that are of no
other form. -/
def wrapped (after : List Line) : List Text :=
  (after.takeWhile fun line => !line.isChange).filterMap Line.other?

/-- A change as it is filed. -/
def filing? (o : Occurrence) : Option Filing :=
  match o.line with
  | .change e => (address? o.before).map fun a => ⟨a, e, wrapped o.after⟩
  | _ => none

/-- The changes as they are filed, in the order of the file. -/
def filings (lines : List Line) : List Filing :=
  (occurrences lines).filterMap filing?

/-- The entries that belong at an address, in the order of the file. -/
def entriesAt (lines : List Line) (a : Address) : List Entry :=
  ((filings lines).filter fun f => f.address = a).map Filing.whole

end Outline

/-- A version by its parts. -/
def Version.ofParts (date : Text → Option Text) (names : Text → List Text)
    (entries : Address → List Entry) (id : Text) : Version where
  id := id
  date := date id
  entries := entries ⟨id, .direct⟩
  sections := (names id).map fun name => ⟨name, entries ⟨id, .under name⟩⟩

/-- A document by its parts. -/
def Changelog.ofParts (ids : List Text) (date : Text → Option Text) (names : Text → List Text)
    (entries : Address → List Entry) : Changelog :=
  ⟨ids.map (Version.ofParts date names entries)⟩

/-- **The document that lines stand for.** -/
def Changelog.grouped (lines : List Line) : Changelog :=
  .ofParts (Outline.ids lines) (Outline.firstDate lines) (Outline.sectionNames lines)
    (Outline.entriesAt lines)

namespace Outline

variable {lines before : List Line} {line : Line}

/-! ## 4. One more line, where it belongs -/

theorem versionIds_append (lines more : List Line) :
    versionIds (lines ++ more) = versionIds lines ++ versionIds more := by
  unfold versionIds
  rw [List.filterMap_append, List.map_append]

@[simp] theorem versionIds_concat :
    versionIds (lines ++ [line]) = versionIds lines ++ (line.version?.map Prod.fst).toList := by
  rw [versionIds_append]
  cases line <;> rfl

@[simp] theorem nearestVersion?_concat_version {id : Text} {date : Option Text} :
    nearestVersion? (before ++ [.version id date]) = some id := by
  simp [nearestVersion?, Line.version?]

theorem nearestVersion?_concat (h : line.version? = none) :
    nearestVersion? (before ++ [line]) = nearestVersion? before := by
  simp [nearestVersion?, h]

theorem nearestVersion?_eq_none_iff : nearestVersion? before = none ↔ versionIds before = [] := by
  simp [nearestVersion?]

theorem mem_versionIds_of_nearestVersion? {id : Text} (h : nearestVersion? before = some id) :
    id ∈ versionIds before :=
  List.mem_of_getLast? h

theorem address?_eq_none_iff : address? before = none ↔ versionIds before = [] := by
  simp [address?, nearestVersion?_eq_none_iff]

/-- A version heading: what follows belongs directly under it. -/
theorem address?_concat_version {id : Text} {date : Option Text} :
    address? (before ++ [.version id date]) = some ⟨id, .direct⟩ := by
  simp [address?, nearestPlace, sinceVersion, Line.version?]

/-- A section heading: what follows belongs under it, if a version heading came before. -/
theorem address?_concat_heading {name : Text} :
    address? (before ++ [.heading name]) =
      (nearestVersion? before).map fun id => ⟨id, .under name⟩ := by
  have hs : sinceVersion (before ++ [.heading name]) = sinceVersion before ++ [.heading name] := by
    simp [sinceVersion, Line.version?]
  rw [address?, nearestVersion?_concat rfl, nearestPlace, hs]
  simp [Line.heading?]

/-- No other line changes where what follows belongs. -/
theorem address?_concat (hv : line.version? = none) (hh : line.heading? = none) :
    address? (before ++ [line]) = address? before := by
  have hs : sinceVersion (before ++ [line]) = sinceVersion before ++ [line] := by
    simp [sinceVersion, hv]
  rw [address?, nearestVersion?_concat hv, nearestPlace, hs]
  simp [hh, nearestPlace, address?]

/-- After a version heading every change belongs somewhere. -/
theorem address?_ne_none_concat (h : address? before ≠ none) :
    address? (before ++ [line]) ≠ none := by
  simp only [ne_eq, address?_eq_none_iff, versionIds_concat, List.append_eq_nil_iff] at h ⊢
  exact fun hn => h hn.1

/-! ## 5. One more line, and the lines in their file -/

theorem occurrencesAfter_concat : (before lines : List Line) →
    occurrencesAfter before (lines ++ [line]) =
      (occurrencesAfter before lines).map (fun o => { o with after := o.after ++ [line] }) ++
        [⟨before ++ lines, line, []⟩]
  | before, [] => by simp [occurrencesAfter]
  | before, first :: lines => by
      have ih := occurrencesAfter_concat (before ++ [first]) lines
      simp [occurrencesAfter, ih]

theorem occurrences_concat : occurrences (lines ++ [line]) =
    (occurrences lines).map (fun o => { o with after := o.after ++ [line] }) ++
      [⟨lines, line, []⟩] :=
  occurrencesAfter_concat [] lines

theorem filterMap_singleton {α β : Type} (f : α → Option β) (a : α) :
    [a].filterMap f = (f a).toList := by
  rw [List.filterMap_cons, List.filterMap_nil]
  cases f a <;> rfl

theorem headingsUnder_concat {id : Text} : headingsUnder (lines ++ [line]) id =
    headingsUnder lines id ++
      (if nearestVersion? lines = some id then line.heading? else none).toList := by
  unfold headingsUnder
  rw [occurrences_concat, List.filterMap_append, List.filterMap_map, filterMap_singleton]
  rfl

/-! ## 6. One more line, and the changes -/

theorem wrapped_cons {after : List Line} : wrapped (line :: after) =
    if line.isChange then [] else line.other?.toList ++ wrapped after := by
  cases line <;> rfl

/-- A change is wrapped only to lines of no other form. -/
theorem wrapped_concat (h : line.other? = none) :
    (after : List Line) → wrapped (after ++ [line]) = wrapped after
  | [] => by
      rw [List.nil_append, wrapped_cons, h]
      exact ite_self []
  | first :: after => by
      rw [List.cons_append, wrapped_cons, wrapped_cons, wrapped_concat h after]

/-- Other text is joined to the last change before it. -/
theorem wrapped_concat_other (content : Text) : (after : List Line) →
    wrapped (after ++ [.other content]) =
      if after.any Line.isChange then wrapped after else wrapped after ++ [content]
  | [] => rfl
  | first :: after => by
      rw [List.cons_append, wrapped_cons, wrapped_cons, wrapped_concat_other content after]
      cases h : first.isChange with
      | true => simp [h]
      | false =>
          by_cases hafter : after.any Line.isChange = true
          · simp [h, hafter]
          · simp [h, hafter]

theorem filing?_concat (h : line.other? = none) (o : Occurrence) :
    filing? { o with after := o.after ++ [line] } = filing? o := by
  unfold filing?
  simp only [wrapped_concat h]

theorem filings_concat (h : line.other? = none) : filings (lines ++ [line]) =
    filings lines ++ (filing? ⟨lines, line, []⟩).toList := by
  unfold filings
  rw [occurrences_concat, List.filterMap_append, List.filterMap_map, filterMap_singleton]
  refine congrArg (· ++ _) (congrArg (List.filterMap · (occurrences lines)) (funext fun o => ?_))
  exact filing?_concat h o

/-- A change is filed after the others, if a version heading came before it. -/
theorem filings_concat_change {e : Entry} : filings (lines ++ [.change e]) =
    filings lines ++ ((address? lines).map fun a => ⟨a, e, []⟩).toList :=
  filings_concat rfl

/-- Headings and blank lines are not filed. -/
theorem filings_concat_of_not_change (hc : line.isChange = false) (ho : line.other? = none) :
    filings (lines ++ [line]) = filings lines := by
  rw [filings_concat ho]
  cases line with
  | change e => cases hc
  | _ => simp [filing?]

/-- Without changes nothing is filed. -/
theorem filingsAfter_eq_nil (hany : ¬ lines.any Line.isChange = true) :
    (occurrencesAfter before lines).filterMap filing? = [] := by
  induction lines generalizing before with
  | nil => rfl
  | cons first lines ih =>
      rw [occurrencesAfter, List.filterMap_cons]
      cases first with
      | change e => exact absurd rfl hany
      | _ => exact ih hany

/-- With a version heading before them, all changes are filed. -/
theorem filingsAfter_ne_nil (h : address? before ≠ none) (hany : lines.any Line.isChange = true) :
    (occurrencesAfter before lines).filterMap filing? ≠ [] := by
  induction lines generalizing before with
  | nil => cases hany
  | cons first lines ih =>
      rw [occurrencesAfter, List.filterMap_cons]
      cases first with
      | change e =>
          obtain ⟨a, ha⟩ := Option.ne_none_iff_exists'.mp h
          simp [filing?, ha]
      | _ => exact ih (address?_ne_none_concat h) hany

/-- The filings with one more text joined to the last of them. -/
def joinLast (content : Text) (filings : List Filing) : List Filing :=
  filings.dropLast ++
    (filings.getLast?.map fun f => { f with wrapped := f.wrapped ++ [content] }).toList

theorem joinLast_append (content : Text) (filings : List Filing) {more : List Filing}
    (h : more ≠ []) : joinLast content (filings ++ more) = filings ++ joinLast content more := by
  simp [joinLast, List.dropLast_append_of_ne_nil h, List.getLast?_append_of_ne_nil filings h]

theorem filingsAfter_concat_other (content : Text) : (before lines : List Line) →
    (occurrencesAfter before (lines ++ [.other content])).filterMap filing? =
      joinLast content ((occurrencesAfter before lines).filterMap filing?)
  | before, [] => rfl
  | before, first :: lines => by
      have ih := filingsAfter_concat_other content (before ++ [first]) lines
      rw [List.cons_append, occurrencesAfter, occurrencesAfter, List.filterMap_cons,
        List.filterMap_cons, ih]
      cases first with
      | change e =>
          cases ha : address? before with
          | none => simp [filing?, ha]
          | some a =>
              have hbefore : address? (before ++ [.change e]) ≠ none :=
                address?_ne_none_concat (Option.ne_none_iff_exists'.mpr ⟨a, ha⟩)
              simp only [filing?, ha, Option.map_some, wrapped_concat_other]
              -- the text belongs to this change unless there is a later one, which is filed too
              split
              · rename_i hany
                exact (joinLast_append content [_] (filingsAfter_ne_nil hbefore hany)).symm
              · rename_i hany
                rw [filingsAfter_eq_nil hany]
                rfl
      | _ => simp [filing?]

/-- **Other text is joined to the change that was filed last**, if there is one. -/
theorem filings_concat_other (content : Text) :
    filings (lines ++ [.other content]) = joinLast content (filings lines) :=
  filingsAfter_concat_other content [] lines

/-! ## 7. One more line, and the entries at an address -/

theorem entriesAt_eq_of_filings {lines' : List Line} (h : filings lines' = filings lines) :
    entriesAt lines' = entriesAt lines := by
  funext a
  rw [entriesAt, h, entriesAt]

/-- One more filing is an entry at its address, and at no other. -/
theorem entriesAt_of_filings_concat {lines' : List Line} {f : Filing}
    (h : filings lines' = filings lines ++ [f]) :
    entriesAt lines' = Function.update (entriesAt lines) f.address
      (entriesAt lines f.address ++ [f.whole]) := by
  funext a
  unfold entriesAt
  rw [h, List.filter_append, List.map_append]
  by_cases ha : a = f.address
  · subst ha
    simp
  · simp [Function.update_of_ne ha, Ne.symm ha]

/-- Joining a text to the last filing extends the last entry at its address. -/
theorem entriesAt_concat_other {earlier : List Filing} {f : Filing} {n : Nat} (content : Text)
    (h : filings lines = earlier ++ [f]) (hn : n + 1 = (entriesAt lines f.address).length) :
    entriesAt (lines ++ [.other content]) = Function.update (entriesAt lines) f.address
      ((entriesAt lines f.address).modify n fun e => e.extend content) := by
  have hjoined : filings (lines ++ [.other content]) =
      earlier ++ [{ f with wrapped := f.wrapped ++ [content] }] := by
    rw [filings_concat_other, h]
    simp [joinLast]
  funext a
  by_cases ha : a = f.address
  · subst ha
    rw [Function.update_self]
    unfold entriesAt at hn ⊢
    rw [hjoined]
    rw [h] at hn ⊢
    simp only [List.filter_append, List.map_append, List.filter_cons, decide_true, if_true,
      List.filter_nil, List.map_cons, List.map_nil, List.length_append, List.length_singleton,
      Nat.add_right_cancel_iff] at hn ⊢
    rw [hn, modify_length_concat]
    simp [Filing.whole]
  · rw [Function.update_of_ne ha]
    unfold entriesAt
    rw [hjoined, h]
    simp [Ne.symm ha]

/-! ## 8. One more line, and ids and names -/

/-- A new member is seen for the first time at the end. -/
theorem eraseDups_concat {α : Type} [BEq α] [LawfulBEq α] (l : List α) (a : α) :
    (l ++ [a]).eraseDups = if a ∈ l then l.eraseDups else l.eraseDups ++ [a] := by
  rw [List.eraseDups_append]
  split <;> simp [List.removeAll, List.eraseDups_cons, *]

theorem nodup_eraseDups {α : Type} [BEq α] [LawfulBEq α] (l : List α) : l.eraseDups.Nodup := by
  induction l using List.reverseRecOn with
  | nil => simp
  | append_singleton l a ih =>
      rw [eraseDups_concat]
      split
      · exact ih
      · rename_i h
        refine List.nodup_append.mpr ⟨ih, List.nodup_singleton a, fun b hb c hc e => h ?_⟩
        rw [← List.mem_singleton.mp hc, ← e]
        exact List.mem_eraseDups.mp hb

theorem mem_headFirst {ids : List Text} {id : Text} : id ∈ headFirst ids ↔ id ∈ ids := by
  by_cases h : id = Version.head <;> simp [headFirst, h]

theorem mem_ids {id : Text} : id ∈ ids lines ↔ id ∈ versionIds lines := by
  rw [ids, mem_headFirst, List.mem_eraseDups]

theorem nodup_ids : (ids lines).Nodup := by
  have h := nodup_eraseDups (versionIds lines)
  refine List.nodup_append.mpr ⟨h.filter _, h.filter _, fun a ha b hb e => ?_⟩
  have hhead : a = Version.head := by simpa using (List.mem_filter.mp ha).2
  have hother : b ≠ Version.head := by simpa using (List.mem_filter.mp hb).2
  exact hother (e ▸ hhead)

theorem ids_concat (h : line.version? = none) : ids (lines ++ [line]) = ids lines := by
  rw [ids, versionIds_concat, h, ids]
  simp

theorem firstDate_concat (h : line.version? = none) :
    firstDate (lines ++ [line]) = firstDate lines := by
  funext id
  simp [firstDate, h]

theorem lookup_eq_none_iff {headings : List (Text × Option Text)} {id : Text} :
    headings.lookup id = none ↔ id ∉ headings.map Prod.fst := by
  rw [List.lookup_eq_none_iff]
  constructor
  · intro h hm
    obtain ⟨p, hp, rfl⟩ := List.mem_map.mp hm
    simpa using h p hp
  · intro h p hp
    exact bne_iff_ne.mpr fun e => h (e ▸ List.mem_map_of_mem hp)

/-- Only the first heading of a version dates it. -/
theorem firstDate_concat_version (id : Text) (date : Option Text) :
    firstDate (lines ++ [.version id date]) =
      if id ∈ versionIds lines then firstDate lines
      else Function.update (firstDate lines) id date := by
  have happend (id' : Text) : firstDate (lines ++ [.version id date]) id' =
      (((lines.filterMap Line.version?).lookup id').or
        ([(id, date)].lookup id')).join := by
    rw [firstDate, List.filterMap_append, List.lookup_append]
    rfl
  funext id'
  rw [happend]
  by_cases hid : id' = id
  · subst hid
    split
    · rename_i h
      obtain ⟨d, hd⟩ := Option.ne_none_iff_exists'.mp fun e => lookup_eq_none_iff.mp e h
      simp [firstDate, hd]
    · rename_i h
      simp [lookup_eq_none_iff.mpr h]
  · have hne : (id' == id) = false := by simpa using hid
    split
    · simp [firstDate, List.lookup_cons, hne]
    · rw [Function.update_of_ne hid]
      simp [firstDate, List.lookup_cons, hne]

/-- A heading of a version that has one already makes no other. -/
theorem ids_concat_old {id : Text} {date : Option Text} (h : id ∈ versionIds lines) :
    ids (lines ++ [.version id date]) = ids lines := by
  have hv : versionIds (lines ++ [.version id date]) = versionIds lines ++ [id] := versionIds_concat
  rw [ids, hv, eraseDups_concat, if_pos h, ids]

/-- **The first heading of a version puts it at the end**, and `HEAD` in front. -/
theorem ids_concat_new {id : Text} {date : Option Text} (h : id ∉ versionIds lines) :
    ids (lines ++ [.version id date]) =
      if id = Version.head then id :: ids lines else ids lines ++ [id] := by
  have hv : versionIds (lines ++ [.version id date]) = versionIds lines ++ [id] := versionIds_concat
  rw [ids, hv, eraseDups_concat, if_neg h, ids]
  split
  · rename_i hhead
    subst hhead
    have hnone : (versionIds lines).eraseDups.filter (fun id => id = Version.head) = [] := by
      refine List.filter_eq_nil_iff.mpr fun a ha e => h ?_
      rw [← of_decide_eq_true e]
      exact List.mem_eraseDups.mp ha
    simp [headFirst, hnone]
  · rename_i hhead
    simp [headFirst, hhead]

theorem nodup_sectionNames (id : Text) : (sectionNames lines id).Nodup :=
  nodup_eraseDups _

/-- **A section heading puts a new section at the end** of the version it is under. -/
theorem sectionNames_concat_heading {id name : Text} (h : nearestVersion? lines = some id) :
    sectionNames (lines ++ [.heading name]) = Function.update (sectionNames lines) id
      (if name ∈ sectionNames lines id then sectionNames lines id
        else sectionNames lines id ++ [name]) := by
  funext id'
  unfold sectionNames
  rw [headingsUnder_concat, h]
  by_cases hid : id' = id
  · subst hid
    simp [Line.heading?, eraseDups_concat]
  · rw [Function.update_of_ne hid, if_neg fun e => hid (Option.some.inj e).symm]
    simp

/-- Section headings before the first version heading, and other lines, make no section. -/
theorem sectionNames_concat (h : nearestVersion? lines = none ∨ line.heading? = none) :
    sectionNames (lines ++ [line]) = sectionNames lines := by
  funext id
  unfold sectionNames
  rw [headingsUnder_concat]
  rcases h with h | h <;> simp [h]

/-! ## 9. Parts belong to headings that are there -/

theorem mem_occurrencesAfter {o : Occurrence} : (before lines : List Line) →
    (o ∈ occurrencesAfter before lines ↔
      ∃ between, o.before = before ++ between ∧ lines = between ++ o.line :: o.after)
  | before, [] => by simp [occurrencesAfter]
  | before, first :: lines => by
      rw [occurrencesAfter, List.mem_cons, mem_occurrencesAfter (before ++ [first]) lines]
      constructor
      · rintro (rfl | ⟨between, hb, rfl⟩)
        · exact ⟨[], by simp, rfl⟩
        · exact ⟨first :: between, by simpa using hb, rfl⟩
      · rintro ⟨between, hb, hl⟩
        cases between with
        | nil =>
            obtain ⟨rfl, rfl⟩ := List.cons.inj hl
            left
            cases o
            simp_all
        | cons line between =>
            obtain ⟨rfl, rfl⟩ := List.cons.inj hl
            exact .inr ⟨between, by simpa using hb, rfl⟩

/-- The lines of a file with those before and after them are the ways to cut it at a line. -/
theorem mem_occurrences {o : Occurrence} :
    o ∈ occurrences lines ↔ lines = o.before ++ o.line :: o.after := by
  unfold occurrences
  rw [mem_occurrencesAfter]
  simp

theorem mem_headingsUnder {id name : Text} : name ∈ headingsUnder lines id ↔ ∃ before after,
    lines = before ++ .heading name :: after ∧ nearestVersion? before = some id := by
  simp only [headingsUnder, List.mem_filterMap, mem_occurrences]
  constructor
  · rintro ⟨⟨before, line, after⟩, hl, h⟩
    split at h
    · rename_i hn
      cases line with
      | heading n =>
          cases h
          exact ⟨before, after, hl, hn⟩
      | _ => cases h
    · cases h
  · rintro ⟨before, after, hl, hn⟩
    exact ⟨⟨before, .heading name, after⟩, hl, by simp [hn, Line.heading?]⟩

/-- Where a change belongs under a section, there is a heading of that section. -/
theorem mem_headingsUnder_of_address? {id name : Text}
    (h : address? before = some ⟨id, .under name⟩) : name ∈ headingsUnder before id := by
  induction before using List.reverseRecOn with
  | nil => cases h
  | append_singleton before line ih =>
      rw [headingsUnder_concat]
      cases line with
      | version id' date =>
          rw [address?_concat_version] at h
          cases h
      | heading name' =>
          rw [address?_concat_heading] at h
          obtain ⟨id', hid, e⟩ := Option.map_eq_some_iff.mp h
          cases e
          simp [hid, Line.heading?]
      | change | blank | other =>
          rw [address?_concat rfl rfl] at h
          exact List.mem_append_left _ (ih h)

theorem exists_address?_of_mem_filings {f : Filing} (h : f ∈ filings lines) :
    ∃ before after, lines = before ++ .change f.entry :: after ∧
      address? before = some f.address := by
  obtain ⟨⟨before, line, after⟩, ho, hf⟩ := List.mem_filterMap.mp h
  cases line with
  | change e =>
      obtain ⟨a, ha, rfl⟩ := Option.map_eq_some_iff.mp hf
      exact ⟨before, after, mem_occurrences.mp ho, ha⟩
  | _ => cases hf

/-- Nothing belongs to a version without a heading. -/
theorem entriesAt_eq_nil_of_id {id : Text} (h : id ∉ versionIds lines) (place : Place) :
    entriesAt lines ⟨id, place⟩ = [] := by
  refine List.map_eq_nil_iff.mpr (List.filter_eq_nil_iff.mpr fun f hf e => h ?_)
  obtain ⟨before, after, rfl, ha⟩ := exists_address?_of_mem_filings hf
  rw [of_decide_eq_true e] at ha
  obtain ⟨id', hid, e⟩ := Option.map_eq_some_iff.mp ha
  cases e
  rw [versionIds_append]
  exact List.mem_append_left _ (mem_versionIds_of_nearestVersion? hid)

/-- Nothing belongs under a section without a heading. -/
theorem entriesAt_eq_nil_of_name {id name : Text} (h : name ∉ sectionNames lines id) :
    entriesAt lines ⟨id, .under name⟩ = [] := by
  refine List.map_eq_nil_iff.mpr (List.filter_eq_nil_iff.mpr fun f hf e => h ?_)
  obtain ⟨before, after, rfl, ha⟩ := exists_address?_of_mem_filings hf
  rw [of_decide_eq_true e] at ha
  obtain ⟨before', after', rfl, hn⟩ := mem_headingsUnder.mp (mem_headingsUnder_of_address? ha)
  refine List.mem_eraseDups.mpr (mem_headingsUnder.mpr ⟨before', ?_, ?_, hn⟩)
  · exact after' ++ .change f.entry :: after
  · simp

/-- Under a version without a heading there are no section headings. -/
theorem headingsUnder_eq_nil {id : Text} (h : id ∉ versionIds lines) :
    headingsUnder lines id = [] := by
  refine List.eq_nil_iff_forall_not_mem.mpr fun name hm => h ?_
  obtain ⟨before, after, rfl, hn⟩ := mem_headingsUnder.mp hm
  rw [versionIds_append]
  exact List.mem_append_left _ (mem_versionIds_of_nearestVersion? hn)

/-- A version without a heading has no sections. -/
theorem sectionNames_eq_nil {id : Text} (h : id ∉ versionIds lines) :
    sectionNames lines id = [] := by
  rw [sectionNames, headingsUnder_eq_nil h, List.eraseDups_nil]

end Outline

end MergeScribe
