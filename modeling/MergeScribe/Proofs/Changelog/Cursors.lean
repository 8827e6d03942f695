import MergeScribe.Proofs.Changelog.Slot
import MergeScribe.Proofs.Changelog.Strictness

/-!
# Indices that lead somewhere

The cursors of a reader are plain indices into lists that it adds to while it reads, and a new `HEAD`
is put in front of all versions. A reader that follows an index only where something is
(`Reader.read?`) has no answer where there is nothing. Main statement: whatever the lines, that
reader takes them all in as any other does, and after them the cursors lead to the version of the
last version heading, to the section of the last section heading since, and to the entry of the last
change (`Reader.readAll_located`). This rests on the reader keeping track of the lines
(`Reader.Tracks`), for what the lines say determines where an index leads (`Points.leads`).
-/

namespace MergeScribe

open Outline

/-! ## 1. Where indices lead -/

/-- The index of a version, and that of one of its sections if there is one, lead to an address: they
are within their lists, and the version and the section that they lead to are those of the address. -/
inductive Changelog.Leads (c : Changelog) (i : Nat) : Option Nat → Address → Prop
  | direct {v : Version} (version : c.versions[i]? = some v) : Leads c i none ⟨v.id, .direct⟩
  | under {v : Version} {s : Section} {j : Nat} (version : c.versions[i]? = some v)
      (place : v.sections[j]? = some s) : Leads c i (some j) ⟨v.id, .under s.name⟩

/-- Indices lead to the same address in a document as in its parts. -/
theorem Points.leads {ids : List Text} {date : Text → Option Text} {names : Text → List Text}
    {entries : Address → List Entry} {a : Address} {i : Nat} {j : Option Nat}
    (h : Points ids names a i j) : (Changelog.ofParts ids date names entries).Leads i j a := by
  cases h with
  | @direct id i version =>
      have hv : (Changelog.ofParts ids date names entries).versions[i]? =
          some (Version.ofParts date names entries id) := by
        rw [Changelog.ofParts, List.getElem?_map, version, Option.map_some]
      exact .direct hv
  | @under id name i j version place =>
      have hv : (Changelog.ofParts ids date names entries).versions[i]? =
          some (Version.ofParts date names entries id) := by
        rw [Changelog.ofParts, List.getElem?_map, version, Option.map_some]
      have hs : (Version.ofParts date names entries id).sections[j]? =
          some ⟨name, entries ⟨id, .under name⟩⟩ := by
        rw [Version.ofParts, List.getElem?_map, place, Option.map_some]
      exact .under hv hs

/-! ## 2. Following an index only where something is -/

/-- Change the member of an index by a function that may have no answer. Where there is no such
member there is no answer either. -/
def modifyAt? {α : Type} (l : List α) (i : Nat) (f : α → Option α) : Option (List α) := do
  let a ← l[i]?
  let b ← f a
  return l.set i b

/-- Change the version of an index, if there is one. -/
def Changelog.modifyVersion? (c : Changelog) (i : Nat) (f : Version → Option Version) :
    Option Changelog :=
  (modifyAt? c.versions i f).map Changelog.mk

/-- Change the entries directly under the version, or those of the section of an index, if there is
one. -/
def Version.modifyEntries? (v : Version) (sectionAt : Option Nat)
    (f : List Entry → Option (List Entry)) : Option Version :=
  match sectionAt with
  | none => (f v.entries).map fun entries => { v with entries := entries }
  | some j =>
    (modifyAt? v.sections j fun s => (f s.entries).map fun entries =>
      { s with entries := entries }).map fun sections => { v with sections := sections }

/-- Change the entries that indices lead to, if they lead to any. -/
def Changelog.modifyEntries? (c : Changelog) (i : Nat) (sectionAt : Option Nat)
    (f : List Entry → Option (List Entry)) : Option Changelog :=
  c.modifyVersion? i fun v => v.modifyEntries? sectionAt f

namespace Reader

/-- Take one line in, and follow an index only where something is. -/
def read? (r : Reader) : Line → Option Reader
  | .version id date => some (r.enterVersion id date)
  | .heading name =>
    match r.versionAt with
    | none => some r
    | some i => do
      let document ← r.document.modifyVersion? i fun v => some (v.ensureSection name)
      let v ← document.versions[i]?
      let j ← v.sections.findIdx? fun s => s.name == name
      return { r with document := document, sectionAt := some j }
  | .change e =>
    match r.versionAt with
    | none => some r
    | some i => do
      let document ← r.document.modifyEntries? i r.sectionAt fun entries => some (entries ++ [e])
      let n := (r.document.entriesIn i r.sectionAt).length
      return { r with document := document, latest := some ⟨i, r.sectionAt, n⟩ }
  | .blank => some r
  | .other content =>
    match r.latest with
    | none => some r
    | some spot => do
      let document ← r.document.modifyEntries? spot.version spot.sectionAt fun entries =>
        modifyAt? entries spot.entry fun e => some (e.extend content)
      return { r with document := document }

/-- Take lines in, one after the other, and follow an index only where something is. -/
def readAll? (r : Reader) (lines : List Line) : Option Reader :=
  lines.foldlM read? r

end Reader

/-! ## 3. Where indices lead, following them is no different -/

theorem modifyAt?_eq_some {α : Type} {l : List α} {i : Nat} {a : α} {f : α → Option α} {g : α → α}
    (hi : l[i]? = some a) (hf : f a = some (g a)) : modifyAt? l i f = some (l.modify i g) := by
  have hmodify : l.modify i g = l.set i (g a) := by
    rw [List.modify_eq_set_getElem?]
    simp [hi]
  simp [modifyAt?, hi, hf, hmodify]

theorem Changelog.modifyVersion?_eq_some {c : Changelog} {i : Nat} {v : Version}
    {f : Version → Option Version} {g : Version → Version} (hi : c.versions[i]? = some v)
    (hf : f v = some (g v)) : c.modifyVersion? i f = some (c.modifyVersion i g) := by
  rw [modifyVersion?, modifyAt?_eq_some hi hf]
  rfl

namespace Changelog.Leads

variable {c : Changelog} {i : Nat} {j : Option Nat} {a : Address}

theorem version (h : c.Leads i j a) : ∃ v, c.versions[i]? = some v ∧ v.id = a.id := by
  cases h with
  | direct version => exact ⟨_, version, rfl⟩
  | under version place => exact ⟨_, version, rfl⟩

/-- Where indices lead to entries, these are changed. -/
theorem modifyEntries? (h : c.Leads i j a) {f : List Entry → Option (List Entry)}
    {g : List Entry → List Entry} (hf : f (c.entriesIn i j) = some (g (c.entriesIn i j))) :
    c.modifyEntries? i j f = some (c.modifyVersion i fun v => v.modifyEntries j g) := by
  cases h with
  | @direct v version =>
      have hentries : c.entriesIn i none = v.entries := by
        simp [entriesIn, Version.entriesIn, version]
      rw [hentries] at hf
      refine modifyVersion?_eq_some version ?_
      rw [Version.modifyEntries?, hf]
      rfl
  | @under v s j version place =>
      have hentries : c.entriesIn i (some j) = s.entries := by
        simp [entriesIn, Version.entriesIn, version, place]
      rw [hentries] at hf
      have hsection : (f s.entries).map (fun entries => { s with entries := entries }) =
          some { s with entries := g s.entries } := by
        rw [hf, Option.map_some]
      refine modifyVersion?_eq_some version ?_
      rw [Version.modifyEntries?, modifyAt?_eq_some place hsection
        (g := fun s => { s with entries := g s.entries })]
      rfl

end Changelog.Leads

/-! ## 4. The cursors of a reader -/

namespace Reader

variable {r : Reader} {before : List Line} {line : Line}

/-- A current version is that of the last version heading, and a current section in it is that of the
last section heading since. -/
theorem Tracks.current (h : r.Tracks before) {i : Nat} (hi : r.versionAt = some i) :
    ∃ a, address? before = some a ∧ r.document.Leads i r.sectionAt a := by
  cases ha : address? before with
  | none =>
      rw [h.outside ha] at hi
      cases hi
  | some a =>
      obtain ⟨i', hi', hpoints⟩ := h.inside ha
      obtain rfl := Option.some.inj (hi.symm.trans hi')
      rw [h.document]
      exact ⟨a, rfl, hpoints.leads⟩

/-- The latest entry is that of the change that was filed last, and the last one where that belongs. -/
theorem Tracks.latestEntry (h : r.Tracks before) {spot : Spot} (hs : r.latest = some spot) :
    ∃ f, (filings before).getLast? = some f ∧
      r.document.Leads spot.version spot.sectionAt f.address ∧
      ∃ earlier, r.document.entriesIn spot.version spot.sectionAt = earlier ++ [f.whole] ∧
        spot.entry = earlier.length := by
  rcases List.eq_nil_or_concat' (filings before) with hnil | ⟨others, f, hlast⟩
  · rw [h.unfiled hnil] at hs
    cases hs
  · have hf : (filings before).getLast? = some f := by simp [hlast]
    obtain ⟨spot', hs', hpoints, hn⟩ := h.filed hf
    obtain rfl := Option.some.inj (hs.symm.trans hs')
    have hentries : entriesAt before f.address =
        (others.filter fun g => g.address = f.address).map Filing.whole ++ [f.whole] := by
      rw [entriesAt, hlast, List.filter_append, List.map_append]
      simp
    refine ⟨f, hf, h.document ▸ hpoints.leads,
      (others.filter fun g => g.address = f.address).map Filing.whole, ?_, ?_⟩
    · rw [h.document, Changelog.grouped, hpoints.entriesIn, hentries]
    · rw [hentries, List.length_append, List.length_singleton] at hn
      exact Nat.succ.inj hn

/-- Without a latest entry nothing is filed. -/
theorem Tracks.filings_eq_nil (h : r.Tracks before) (hs : r.latest = none) :
    filings before = [] := by
  rcases List.eq_nil_or_concat' (filings before) with hnil | ⟨others, f, hlast⟩
  · exact hnil
  · obtain ⟨spot, hspot, -⟩ := h.filed (by rw [hlast, List.getLast?_concat])
    rw [hs] at hspot
    cases hspot

/-- **A reader that keeps track follows no index to where nothing is.** -/
theorem Tracks.read?_eq_some (h : r.Tracks before) (line : Line) :
    r.read? line = some (r.read line) := by
  cases line with
  | version id date => rfl
  | blank => rfl
  | heading name =>
      unfold Reader.read? Reader.read enterSection
      cases hi : r.versionAt with
      | none => rfl
      | some i =>
          obtain ⟨a, -, hleads⟩ := h.current hi
          obtain ⟨v, hv, -⟩ := hleads.version
          have hmade : r.document.modifyVersion? i (fun v => some (v.ensureSection name)) =
              some (r.document.modifyVersion i fun v => v.ensureSection name) :=
            Changelog.modifyVersion?_eq_some hv rfl
          have hfound : (r.document.modifyVersion i fun v => v.ensureSection name).versions[i]? =
              some (v.ensureSection name) := by
            simp [Changelog.modifyVersion, hv]
          -- The name is looked up only once there is a section of it.
          obtain ⟨j, hj⟩ := Option.isSome_iff_exists.mp
            (List.findIdx?_isSome.trans (v.any_ensureSection name))
          simp [hmade, hfound, hj]
  | change e =>
      unfold Reader.read? Reader.read addEntry
      cases hi : r.versionAt with
      | none => rfl
      | some i =>
          obtain ⟨a, -, hleads⟩ := h.current hi
          have hentered : r.document.modifyEntries? i r.sectionAt
                (fun entries => some (entries ++ [e])) =
              some (r.document.modifyVersion i fun v =>
                v.modifyEntries r.sectionAt fun entries => entries ++ [e]) :=
            hleads.modifyEntries? rfl
          simp [hentered]
  | other content =>
      unfold Reader.read? Reader.read continueEntry
      cases hs : r.latest with
      | none => rfl
      | some spot =>
          obtain ⟨f, -, hleads, earlier, hentries, hn⟩ := h.latestEntry hs
          have hlast : (r.document.entriesIn spot.version spot.sectionAt)[spot.entry]? =
              some f.whole := by
            rw [hentries, hn, List.getElem?_concat_length]
          have hjoined : r.document.modifyEntries? spot.version spot.sectionAt
                (fun entries => modifyAt? entries spot.entry fun e => some (e.extend content)) =
              some (r.document.modifyEntry spot fun e => e.extend content) :=
            hleads.modifyEntries? (modifyAt?_eq_some hlast rfl)
          simp [hjoined]

theorem Tracks.readAll?_eq_some (h : r.Tracks before) (lines : List Line) :
    r.readAll? lines = some (r.readAll lines) := by
  -- On the lines ahead: the reader keeps track of one more line behind it with each.
  induction lines generalizing r before with
  | nil => rfl
  | cons line lines ih =>
      have hstep : r.readAll? (line :: lines) = (r.read? line).bind fun r => r.readAll? lines := rfl
      rw [hstep, h.read?_eq_some line, Option.bind_some, ih (h.read line)]
      rfl

/-! ## 5. After any lines -/

/-- Only in a version there is a current section, and each line keeps this so. -/
theorem sectionAt_read (h : r.versionAt = none → r.sectionAt = none) (line : Line) :
    (r.read line).versionAt = none → (r.read line).sectionAt = none := by
  cases line with
  | version id date =>
      show (r.enterVersion id date).versionAt = none → (r.enterVersion id date).sectionAt = none
      unfold enterVersion
      split
      · exact fun _ => rfl
      · dsimp only
        split <;> exact fun _ => rfl
  | heading name =>
      show (r.enterSection name).versionAt = none → (r.enterSection name).sectionAt = none
      unfold enterSection
      split
      · exact h
      · rename_i i hi
        intro hn
        rw [hi] at hn
        cases hn
  | change e =>
      show (r.addEntry e).versionAt = none → (r.addEntry e).sectionAt = none
      unfold addEntry
      split <;> exact h
  | blank => exact h
  | other content =>
      show (r.continueEntry content).versionAt = none → (r.continueEntry content).sectionAt = none
      unfold continueEntry
      split <;> exact h

theorem sectionAt_readAll (h : r.versionAt = none → r.sectionAt = none) (lines : List Line) :
    (r.readAll lines).versionAt = none → (r.readAll lines).sectionAt = none := by
  induction lines generalizing r with
  | nil => exact h
  | cons line lines ih => exact ih (sectionAt_read h line)

end Reader

/-- The change that is filed last is the last change of all. It stands behind a version heading, and it
is wrapped to all the text behind it. -/
theorem Outline.exists_of_getLast?_filings {lines : List Line} {f : Filing}
    (h : (filings lines).getLast? = some f) :
    ∃ before after, lines = before ++ .change f.entry :: after ∧
      after.any Line.isChange = false ∧ address? before = some f.address ∧
      f.wrapped = wrapped after := by
  -- From the end, for the last line alone decides what becomes of the change that is filed last.
  induction lines using List.reverseRecOn generalizing f with
  | nil => cases h
  | append_singleton lines line ih =>
      cases line with
      | change e =>
          rw [filings_concat_change] at h
          cases ha : address? lines with
          | none =>
              -- Without a version heading so far, no change before this one is filed either.
              rw [ha] at h
              obtain ⟨before, after, rfl, -, hb, -⟩ := ih (by simpa using h)
              rw [address?_eq_none_iff, versionIds_append] at ha
              rw [address?_eq_none_iff.mpr (List.append_eq_nil_iff.mp ha).1] at hb
              cases hb
          | some a =>
              rw [ha] at h
              obtain rfl : ⟨a, e, []⟩ = f := by simpa using h
              exact ⟨lines, [], rfl, rfl, ha, rfl⟩
      | other content =>
          rw [filings_concat_other] at h
          rcases List.eq_nil_or_concat' (filings lines) with hnil | ⟨others, g, hlast⟩
          · rw [hnil] at h
            cases h
          · rw [hlast] at h ih
            obtain rfl : { g with wrapped := g.wrapped ++ [content] } = f := by
              simpa [joinLast] using h
            obtain ⟨before, after, rfl, hafter, hb, hw⟩ := ih List.getLast?_concat
            refine ⟨before, after ++ [.other content], List.append_assoc .., ?_, hb, ?_⟩
            · simp [hafter, Line.isChange]
            · simp [wrapped_concat_other, hafter, hw]
      | version | heading | blank =>
          rw [filings_concat_of_not_change rfl rfl] at h
          obtain ⟨before, after, rfl, hafter, hb, hw⟩ := ih h
          refine ⟨before, after ++ [_], List.append_assoc .., ?_, hb, ?_⟩
          · simp [hafter, Line.isChange]
          · rw [wrapped_concat rfl, hw]

namespace Reader

/-- **Where the cursors lead** after some lines. -/
structure Located (r : Reader) (before : List Line) : Prop where
  /-- Without a version heading there is neither a current version nor a current section. -/
  outside : r.versionAt = none → nearestVersion? before = none ∧ r.sectionAt = none
  /-- The current version is that of the last version heading, and the current section in it is that of
  the last section heading since. -/
  current : ∀ i, r.versionAt = some i → ∃ id, nearestVersion? before = some id ∧
    r.document.Leads i r.sectionAt ⟨id, nearestPlace before⟩
  /-- Without a latest entry there is no change behind a version heading. -/
  unfiled : r.latest = none → ∀ earlier e later, before = earlier ++ .change e :: later →
    nearestVersion? earlier = none
  /-- The latest entry is that of the last change, with the text behind it joined on. It stands where
  that change belongs, after all others there. -/
  latest : ∀ spot, r.latest = some spot → ∃ earlier e later a,
    before = earlier ++ .change e :: later ∧ later.any Line.isChange = false ∧
    address? earlier = some a ∧ r.document.Leads spot.version spot.sectionAt a ∧
    spot.entry + 1 = (r.document.entriesIn spot.version spot.sectionAt).length ∧
    r.document.entryAt? spot = some ((wrapped later).foldl Entry.extend e)
  /-- No two versions have one id, and no two sections of a version have one name, so only one pair of
  indices leads to an address. -/
  distinct : (r.document.versions.map Version.id).Nodup ∧
    ∀ v ∈ r.document.versions, (v.sections.map Section.name).Nodup

/-- **No index leads nowhere, and each leads to what it is for.** Whatever the lines, a reader that
follows an index only where something is takes them all in as any other does, and after them the
cursors lead to the version, the section and the entry that the lines determine. -/
theorem readAll_located (lines : List Line) :
    start.readAll? lines = some (start.readAll lines) ∧ (start.readAll lines).Located lines := by
  have htracks : (start.readAll lines).Tracks lines := tracks_start.readAll lines
  refine ⟨tracks_start.readAll?_eq_some lines, ?_, ?_, ?_, ?_, ?_, ?_⟩
  · intro hv
    exact ⟨nearestVersion?_eq_none_iff.mpr (htracks.versionAt_eq_none_iff.mp hv),
      sectionAt_readAll (fun _ => rfl) lines hv⟩
  · intro i hi
    obtain ⟨a, ha, hleads⟩ := htracks.current hi
    obtain ⟨id, hid, rfl⟩ := Option.map_eq_some_iff.mp ha
    exact ⟨id, hid, hleads⟩
  · intro hs earlier e later hlines
    have hmem : (⟨earlier, .change e, later⟩ : Occurrence) ∈ occurrences lines :=
      mem_occurrences.mpr hlines
    cases hid : nearestVersion? earlier with
    | none => rfl
    | some id =>
        have hfiled : filing? ⟨earlier, .change e, later⟩ =
            some ⟨⟨id, nearestPlace earlier⟩, e, wrapped later⟩ := by
          simp [filing?, address?, hid]
        have hf := List.mem_filterMap.mpr ⟨_, hmem, hfiled⟩
        change _ ∈ filings lines at hf
        rw [htracks.filings_eq_nil hs] at hf
        cases hf
  · intro spot hs
    obtain ⟨f, hf, hleads, others, hentries, hn⟩ := htracks.latestEntry hs
    obtain ⟨earlier, later, hlines, hlater, ha, hw⟩ := exists_of_getLast?_filings hf
    refine ⟨earlier, f.entry, later, f.address, hlines, hlater, ha, hleads, ?_, ?_⟩
    · simp [hentries, hn]
    · rw [Changelog.entryAt?, hentries, hn, List.getElem?_concat_length, Filing.whole, hw]
  · have hids : (Changelog.grouped lines).versions.map Version.id = ids lines := by
      rw [Changelog.grouped, Changelog.ofParts, List.map_map]
      exact List.map_id _
    rw [htracks.document, hids]
    exact nodup_ids
  · intro v hv
    rw [htracks.document] at hv
    obtain ⟨id, -, rfl⟩ := List.mem_map.mp hv
    have hnames : (Version.ofParts (firstDate lines) (sectionNames lines) (entriesAt lines)
        id).sections.map Section.name = sectionNames lines id := by
      rw [Version.ofParts, List.map_map]
      exact List.map_id _
    rw [hnames]
    exact nodup_sectionNames id

/-- A late `HEAD` is the current version, and the latest entry is found where its version moved to. -/
example :
    let r := start.readAll [.version "1.0.0" none, .change ⟨"Fix", none⟩, .version "HEAD" none,
      .other "it"]
    r.versionAt = some 0 ∧ r.latest = some ⟨1, none, 0⟩ ∧
      r.document.entryAt? ⟨1, none, 0⟩ = some ⟨"Fix it", none⟩ := by
  decide +kernel

end Reader

end MergeScribe
