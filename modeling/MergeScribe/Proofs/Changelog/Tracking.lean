import MergeScribe.Proofs.Changelog.Grouping

/-!
# The reader keeps track

The reader finds its way by indices, and a late `HEAD` moves the versions they lead to. After any
lines its document is nevertheless the one that these lines stand for, and its cursors lead to where
the lines say that a change belongs and to the change that was filed last (`Reader.Tracks`). Each
kind of line keeps this so (`Reader.Tracks.read`), and a whole file does (`Changelog.parse_eq`).
Underneath lies that indices lead to an address (`Points`): changing what stands where they lead
is changing what belongs there (`Points.modifyEntries`).
-/

namespace MergeScribe

open Outline

/-! ## 1. Documents by their parts -/

theorem modify_map_of_nodup {α β : Type} [DecidableEq α] (g : α → β) (f : β → β) {a : α} :
    {l : List α} → l.Nodup → {i : Nat} → l[i]? = some a →
      (l.map g).modify i f = l.map (Function.update g a (f (g a)))
  | [], _, i, h => by simp at h
  | b :: l, hl, 0, h => by
      obtain rfl : b = a := by simpa using h
      have hb : b ∉ l := (List.nodup_cons.mp hl).1
      have hmap : l.map (Function.update g b (f (g b))) = l.map g :=
        List.map_congr_left fun c hc => Function.update_of_ne (ne_of_mem_of_not_mem hc hb) _ g
      simp [hmap]
  | b :: l, hl, i + 1, h => by
      have h' : l[i]? = some a := by simpa using h
      obtain ⟨hb, hl⟩ := List.nodup_cons.mp hl
      have hne : b ≠ a := fun e => hb (e ▸ List.mem_of_getElem? h')
      simp [modify_map_of_nodup g f hl h', hne]

theorem getElem?_of_isPrefix {α : Type} {l l' : List α} {i : Nat} {a : α} (h : l <+: l')
    (hi : l[i]? = some a) : l'[i]? = some a := by
  obtain ⟨more, rfl⟩ := h
  rw [List.getElem?_append_left (List.getElem?_eq_some_iff.mp hi).1, hi]

/-- A family of lists grows where one of them does. -/
theorem isPrefix_update {α β : Type} [DecidableEq α] {f : α → List β} {a : α} {l : List β}
    (h : f a <+: l) (b : α) : f b <+: Function.update f a l b := by
  by_cases hb : b = a
  · subst hb
    simpa using h
  · simp [Function.update_of_ne hb]

section Parts

variable {ids : List Text} {date : Text → Option Text} {names : Text → List Text}
  {entries : Address → List Entry}

/-- The parts of a version depend on what belongs to that version. -/
theorem Version.ofParts_congr {date' : Text → Option Text} {names' : Text → List Text}
    {entries' : Address → List Entry} {id : Text} (hd : date' id = date id)
    (hn : names' id = names id) (he : ∀ place, entries' ⟨id, place⟩ = entries ⟨id, place⟩) :
    Version.ofParts date' names' entries' id = Version.ofParts date names entries id := by
  simp only [Version.ofParts, hd, hn, he]

theorem Version.ofParts_update_of_ne {id : Text} {a : Address} (h : id ≠ a.id)
    (more : List Entry) : Version.ofParts date names (Function.update entries a more) id =
      Version.ofParts date names entries id :=
  Version.ofParts_congr rfl rfl fun _ =>
    Function.update_of_ne (fun e => h (congrArg Address.id e)) more entries

/-- The indices that lead to an address: that of the version, and that of the section if there is
one. -/
inductive Points (ids : List Text) (names : Text → List Text) : Address → Nat → Option Nat → Prop
  | direct {id : Text} {i : Nat} (version : ids[i]? = some id) :
      Points ids names ⟨id, .direct⟩ i none
  | under {id name : Text} {i j : Nat} (version : ids[i]? = some id)
      (place : (names id)[j]? = some name) : Points ids names ⟨id, .under name⟩ i (some j)

theorem Points.version {a : Address} {i : Nat} {j : Option Nat} (h : Points ids names a i j) :
    ids[i]? = some a.id := by
  cases h with
  | direct version => exact version
  | under version place => exact version

/-- Changing the entries where the indices lead is changing those of the address. -/
theorem Points.modifyEntries_version {a : Address} {i : Nat} {j : Option Nat}
    (h : Points ids names a i j) (hnames : (names a.id).Nodup) (f : List Entry → List Entry) :
    (Version.ofParts date names entries a.id).modifyEntries j f =
      Version.ofParts date names (Function.update entries a (f (entries a))) a.id := by
  cases h with
  | direct version => simp [Version.ofParts, Version.modifyEntries]
  | @under id name i j version place =>
      simp only [Version.ofParts, Version.modifyEntries]
      rw [modify_map_of_nodup _ _ hnames place]
      have hdirect : Function.update entries ⟨id, .under name⟩ (f (entries ⟨id, .under name⟩))
          ⟨id, .direct⟩ = entries ⟨id, .direct⟩ := Function.update_of_ne (by simp) _ entries
      rw [hdirect]
      refine congrArg (Version.mk _ _ _) (List.map_congr_left fun name' _ => ?_)
      by_cases hn : name' = name
      · subst hn
        simp
      · have hne : (⟨id, .under name'⟩ : Address) ≠ ⟨id, .under name⟩ := by simpa using hn
        rw [Function.update_of_ne hn, Function.update_of_ne hne]

theorem Points.modifyEntries {a : Address} {i : Nat} {j : Option Nat} (h : Points ids names a i j)
    (hids : ids.Nodup) (hnames : ∀ id, (names id).Nodup) (f : List Entry → List Entry) :
    (Changelog.ofParts ids date names entries).modifyVersion i (fun v => v.modifyEntries j f) =
      Changelog.ofParts ids date names (Function.update entries a (f (entries a))) := by
  unfold Changelog.modifyVersion Changelog.ofParts
  rw [modify_map_of_nodup _ _ hids h.version]
  refine congrArg Changelog.mk (List.map_congr_left fun id _ => ?_)
  by_cases hid : id = a.id
  · subst hid
    rw [Function.update_self]
    exact h.modifyEntries_version (hnames a.id) f
  · rw [Function.update_of_ne hid, Version.ofParts_update_of_ne hid]

theorem Points.entriesIn {a : Address} {i : Nat} {j : Option Nat} (h : Points ids names a i j) :
    (Changelog.ofParts ids date names entries).entriesIn i j = entries a := by
  cases h with
  | direct version =>
      simp [Changelog.entriesIn, Changelog.ofParts, version, Version.ofParts, Version.entriesIn]
  | under version place =>
      simp [Changelog.entriesIn, Changelog.ofParts, version, Version.ofParts, Version.entriesIn,
        place]

/-- Indices lead where they did when ids and names are added at the end. -/
theorem Points.mono {ids' : List Text} {names' : Text → List Text} {a : Address} {i : Nat}
    {j : Option Nat} (h : Points ids names a i j) (hids : ids <+: ids')
    (hnames : ∀ id, names id <+: names' id) : Points ids' names' a i j := by
  cases h with
  | direct version => exact .direct (getElem?_of_isPrefix hids version)
  | under version place =>
      exact .under (getElem?_of_isPrefix hids version) (getElem?_of_isPrefix (hnames _) place)

/-- Indices move along when an id is added in front. -/
theorem Points.cons {a : Address} {i : Nat} {j : Option Nat} (h : Points ids names a i j)
    (id : Text) : Points (id :: ids) names a (i + 1) j := by
  cases h with
  | direct version => exact .direct version
  | under version place => exact .under version place

/-- A version has a section of each of its names, and no other. -/
theorem Version.any_sections_ofParts (id name : Text) :
    (Version.ofParts date names entries id).sections.any (fun s => s.name == name) =
      decide (name ∈ names id) := by
  simp only [Version.ofParts, List.any_map]
  refine Bool.eq_iff_iff.mpr ?_
  simp

/-- Making a section on demand adds its name to those of the version. -/
theorem Version.ensureSection_ofParts {id name : Text}
    (hnew : name ∉ names id → entries ⟨id, .under name⟩ = []) :
    (Version.ofParts date names entries id).ensureSection name = Version.ofParts date
      (Function.update names id (if name ∈ names id then names id else names id ++ [name]))
      entries id := by
  unfold Version.ensureSection
  rw [any_sections_ofParts]
  by_cases h : name ∈ names id
  · simp [h]
  · simp [h, Version.ofParts, hnew h]

theorem Changelog.ensureSection_ofParts {id name : Text} {i : Nat} (hids : ids.Nodup)
    (hi : ids[i]? = some id) (hnew : name ∉ names id → entries ⟨id, .under name⟩ = []) :
    (Changelog.ofParts ids date names entries).modifyVersion i (fun v => v.ensureSection name) =
      Changelog.ofParts ids date
        (Function.update names id (if name ∈ names id then names id else names id ++ [name]))
        entries := by
  unfold Changelog.modifyVersion Changelog.ofParts
  rw [modify_map_of_nodup _ _ hids hi]
  refine congrArg Changelog.mk (List.map_congr_left fun id' _ => ?_)
  by_cases hid : id' = id
  · subst hid
    rw [Function.update_self]
    exact Version.ensureSection_ofParts hnew
  · rw [Function.update_of_ne hid]
    exact (Version.ofParts_congr rfl (Function.update_of_ne hid _ names) fun _ => rfl).symm

/-- What is found by its index stands there. -/
theorem findIdx?_of_mem {α : Type} [BEq α] [LawfulBEq α] {l : List α} {a : α} (h : a ∈ l) :
    ∃ i, l.findIdx? (fun b => b == a) = some i ∧ l[i]? = some a := by
  cases hi : l.findIdx? (fun b => b == a) with
  | none =>
      have hne := List.findIdx?_eq_none_iff.mp hi a h
      simp at hne
  | some i =>
      obtain ⟨hlt, he, -⟩ := List.findIdx?_eq_some_iff_getElem.mp hi
      refine ⟨i, rfl, ?_⟩
      rw [List.getElem?_eq_getElem hlt, beq_iff_eq.mp he]

/-- A section is found by its name in the version that the index leads to. -/
theorem Changelog.sectionAt_ofParts {id name : Text} {i : Nat} (hi : ids[i]? = some id)
    (hn : name ∈ names id) :
    ∃ j, ((Changelog.ofParts ids date names entries).versions[i]?.bind fun v =>
      v.sections.findIdx? fun s => s.name == name) = some j ∧ (names id)[j]? = some name := by
  obtain ⟨j, hj, hname⟩ := findIdx?_of_mem hn
  refine ⟨j, ?_, hname⟩
  simp only [ofParts, List.getElem?_map, hi, Option.map_some, Option.bind_some, Version.ofParts,
    List.findIdx?_map]
  exact hj

/-- The version of an id stands where the id does. -/
theorem Changelog.position?_ofParts (id : Text) :
    (Changelog.ofParts ids date names entries).position? id =
      ids.findIdx? fun id' => id' == id := by
  unfold Changelog.position? Changelog.ofParts
  rw [List.findIdx?_map]
  rfl

end Parts

/-! ## 2. Keeping track -/

/-- After some lines, the reader holds the document that they stand for. Its cursors lead to where a
change would belong, and its latest entry is that of the change that was filed last. -/
structure Reader.Tracks (r : Reader) (before : List Line) : Prop where
  document : r.document = Changelog.grouped before
  outside : address? before = none → r.versionAt = none
  inside : ∀ {a}, address? before = some a → ∃ i, r.versionAt = some i ∧
    Points (ids before) (sectionNames before) a i r.sectionAt
  unfiled : filings before = [] → r.latest = none
  filed : ∀ {f}, (filings before).getLast? = some f → ∃ spot, r.latest = some spot ∧
    Points (ids before) (sectionNames before) f.address spot.version spot.sectionAt ∧
    spot.entry + 1 = (entriesAt before f.address).length

namespace Reader

variable {r : Reader} {before : List Line} {line : Line}

theorem tracks_start : start.Tracks [] where
  document := rfl
  outside _ := rfl
  inside h := nomatch h
  unfiled _ := rfl
  filed h := nomatch h

/-- A line that is no version heading and files nothing keeps the cursors where they are, as long as
what follows belongs where it did. -/
theorem Tracks.pass (h : r.Tracks before) (hv : line.version? = none)
    (hnames : sectionNames (before ++ [line]) = sectionNames before)
    (hfilings : filings (before ++ [line]) = filings before)
    (haddress : address? (before ++ [line]) = address? before) : r.Tracks (before ++ [line]) := by
  have hentries := entriesAt_eq_of_filings hfilings
  constructor
  · rw [h.document, Changelog.grouped, Changelog.grouped, ids_concat hv, firstDate_concat hv,
      hnames, hentries]
  · rw [haddress]
    exact h.outside
  · rw [haddress, ids_concat hv, hnames]
    exact h.inside
  · rw [hfilings]
    exact h.unfiled
  · rw [hfilings, ids_concat hv, hnames, hentries]
    exact h.filed

/-! ## 3. Changes and wrapped text -/

theorem Tracks.blank (h : r.Tracks before) : r.Tracks (before ++ [.blank]) :=
  h.pass rfl (sectionNames_concat (.inr rfl)) (filings_concat_of_not_change rfl rfl)
    (address?_concat rfl rfl)

/-- A change is entered where it belongs. -/
theorem Tracks.change (h : r.Tracks before) (e : Entry) :
    (r.addEntry e).Tracks (before ++ [.change e]) := by
  have hnames : sectionNames (before ++ [.change e]) = sectionNames before :=
    sectionNames_concat (.inr rfl)
  have haddress : address? (before ++ [.change e]) = address? before := address?_concat rfl rfl
  have hfilings : filings (before ++ [.change e]) = filings before ++ _ := filings_concat_change
  unfold addEntry
  cases ha : address? before with
  | none =>
      rw [h.outside ha]
      rw [ha] at hfilings
      exact h.pass rfl hnames (hfilings.trans (List.append_nil _)) haddress
  | some a =>
      rw [ha] at hfilings
      have hentries := entriesAt_of_filings_concat hfilings
      obtain ⟨i, hi, hpoints⟩ := h.inside ha
      rw [hi]
      dsimp only
      constructor
      · show r.document.modifyVersion i _ = _
        rw [h.document, Changelog.grouped, hpoints.modifyEntries nodup_ids nodup_sectionNames,
          Changelog.grouped, ids_concat rfl, firstDate_concat rfl, hnames, hentries]
        rfl
      · intro hn
        rw [haddress, ha] at hn
        cases hn
      · intro a' ha'
        rw [haddress, ha] at ha'
        cases ha'
        rw [ids_concat rfl, hnames]
        exact ⟨i, rfl, hpoints⟩
      · intro hn
        rw [hfilings] at hn
        simp at hn
      · intro f hf
        rw [hfilings] at hf
        obtain rfl : ⟨a, e, []⟩ = f := by simpa using hf
        rw [ids_concat rfl, hnames, hentries]
        refine ⟨_, rfl, hpoints, ?_⟩
        rw [Function.update_self, h.document, Changelog.grouped, hpoints.entriesIn]
        simp

/-- Other text is joined to the entry of the change that was filed last. -/
theorem Tracks.other (h : r.Tracks before) (content : Text) :
    (r.continueEntry content).Tracks (before ++ [.other content]) := by
  have hnames : sectionNames (before ++ [.other content]) = sectionNames before :=
    sectionNames_concat (.inr rfl)
  have haddress : address? (before ++ [.other content]) = address? before := address?_concat rfl rfl
  have hfilings : filings (before ++ [.other content]) = joinLast content (filings before) :=
    filings_concat_other content
  unfold continueEntry
  rcases List.eq_nil_or_concat' (filings before) with hnil | ⟨earlier, f, hlast⟩
  · rw [h.unfiled hnil]
    rw [hnil] at hfilings
    exact h.pass rfl hnames (hfilings.trans hnil.symm) haddress
  · have hf : (filings before).getLast? = some f := by simp [hlast]
    obtain ⟨spot, hspot, hpoints, hn⟩ := h.filed hf
    have hentries := entriesAt_concat_other content hlast hn
    rw [hspot]
    dsimp only
    constructor
    · show r.document.modifyEntry spot _ = _
      rw [h.document, Changelog.grouped, Changelog.modifyEntry,
        hpoints.modifyEntries nodup_ids nodup_sectionNames,
        Changelog.grouped, ids_concat rfl, firstDate_concat rfl, hnames, hentries]
    · rw [haddress]
      exact h.outside
    · rw [haddress, ids_concat rfl, hnames]
      exact h.inside
    · intro hnone
      rw [hfilings, hlast] at hnone
      simp [joinLast] at hnone
    · intro f' hf'
      rw [hfilings, hlast] at hf'
      obtain rfl : { f with wrapped := f.wrapped ++ [content] } = f' := by
        simpa [joinLast] using hf'
      rw [ids_concat rfl, hnames, hentries]
      refine ⟨spot, rfl, hpoints, ?_⟩
      rw [Function.update_self, List.length_modify]
      exact hn

/-! ## 4. Headings -/

/-- A section heading makes its section, unless it is there, and goes to it. -/
theorem Tracks.heading (h : r.Tracks before) (name : Text) :
    (r.enterSection name).Tracks (before ++ [.heading name]) := by
  have hfilings : filings (before ++ [.heading name]) = filings before :=
    filings_concat_of_not_change rfl rfl
  have hentries := entriesAt_eq_of_filings hfilings
  unfold enterSection
  cases hid : nearestVersion? before with
  | none =>
      have ha : address? before = none := by simp [address?, hid]
      have ha' : address? (before ++ [.heading name]) = none := by
        rw [address?_concat_heading, hid]
        rfl
      rw [h.outside ha]
      exact h.pass rfl (sectionNames_concat (.inl hid)) hfilings (ha'.trans ha.symm)
  | some id =>
      have ha : address? before = some ⟨id, nearestPlace before⟩ := by simp [address?, hid]
      have ha' : address? (before ++ [.heading name]) = some ⟨id, .under name⟩ := by
        rw [address?_concat_heading, hid]
        rfl
      have hnames : sectionNames (before ++ [.heading name]) = _ := sectionNames_concat_heading hid
      have hgrow (id' : Text) :
          sectionNames before id' <+: sectionNames (before ++ [.heading name]) id' := by
        rw [hnames]
        refine isPrefix_update ?_ id'
        split
        · exact List.prefix_rfl
        · exact List.prefix_append _ _
      obtain ⟨i, hi, hpoints⟩ := h.inside ha
      have hdocument : r.document.modifyVersion i (fun v => v.ensureSection name) =
          Changelog.grouped (before ++ [.heading name]) := by
        rw [h.document, Changelog.grouped, Changelog.ensureSection_ofParts nodup_ids hpoints.version
          entriesAt_eq_nil_of_name, Changelog.grouped, ids_concat rfl, firstDate_concat rfl, hnames,
          hentries]
      rw [hi]
      dsimp only
      rw [hdocument]
      constructor
      · rfl
      · intro hn
        rw [ha'] at hn
        cases hn
      · intro a hsome
        obtain rfl := Option.some.inj (ha'.symm.trans hsome)
        have hmem : name ∈ sectionNames (before ++ [.heading name]) id := by
          rw [hnames, Function.update_self]
          split
          · assumption
          · exact List.mem_append_right _ List.mem_cons_self
        have hversion : (ids (before ++ [.heading name]))[i]? = some id := by
          rw [ids_concat rfl]
          exact hpoints.version
        obtain ⟨j, hj, hplace⟩ := Changelog.sectionAt_ofParts hversion hmem
        exact ⟨i, rfl, hj ▸ .under hversion hplace⟩
      · rw [hfilings]
        exact h.unfiled
      · rw [hfilings, ids_concat rfl, hentries]
        intro f hf
        obtain ⟨spot, hspot, hp, hn⟩ := h.filed hf
        exact ⟨spot, hspot, hp.mono List.prefix_rfl hgrow, hn⟩

/-- A version heading leads to its version, wherever that stands. The latest entry stays the same
one, though its version may move. -/
theorem Tracks.atVersion (h : r.Tracks before) {id : Text} {date : Option Text} {r' : Reader}
    {i : Nat} (move : Nat → Nat)
    (hdocument : r'.document = Changelog.grouped (before ++ [.version id date]))
    (hversionAt : r'.versionAt = some i) (hsectionAt : r'.sectionAt = none)
    (hlatest : r'.latest = r.latest.map fun spot => { spot with version := move spot.version })
    (hi : (ids (before ++ [.version id date]))[i]? = some id)
    (hmove : ∀ {a j k}, Points (ids before) (sectionNames before) a j k →
      Points (ids (before ++ [.version id date])) (sectionNames before) a (move j) k) :
    r'.Tracks (before ++ [.version id date]) := by
  have hfilings : filings (before ++ [.version id date]) = filings before :=
    filings_concat_of_not_change rfl rfl
  have hnames : sectionNames (before ++ [.version id date]) = sectionNames before :=
    sectionNames_concat (.inr rfl)
  have haddress : address? (before ++ [.version id date]) = some ⟨id, .direct⟩ :=
    address?_concat_version
  constructor
  · exact hdocument
  · intro hn
    rw [haddress] at hn
    cases hn
  · intro a ha
    obtain rfl := Option.some.inj (haddress.symm.trans ha)
    rw [hsectionAt]
    exact ⟨i, hversionAt, .direct hi⟩
  · intro hn
    rw [hfilings] at hn
    rw [hlatest, h.unfiled hn]
    rfl
  · rw [hfilings, hnames, entriesAt_eq_of_filings hfilings]
    intro f hf
    obtain ⟨spot, hspot, hpoints, hn⟩ := h.filed hf
    refine ⟨{ spot with version := move spot.version }, ?_, hmove hpoints, hn⟩
    rw [hlatest, hspot]
    rfl

/-- A heading of a version that is there goes to it. -/
theorem Tracks.oldVersion (h : r.Tracks before) {id : Text} (date : Option Text)
    (hold : id ∈ versionIds before) :
    (r.enterVersion id date).Tracks (before ++ [.version id date]) := by
  have hfilings : filings (before ++ [.version id date]) = filings before :=
    filings_concat_of_not_change rfl rfl
  have hnames : sectionNames (before ++ [.version id date]) = sectionNames before :=
    sectionNames_concat (.inr rfl)
  have hids : ids (before ++ [.version id date]) = ids before := ids_concat_old hold
  have hdate : firstDate (before ++ [.version id date]) = firstDate before := by
    rw [firstDate_concat_version, if_pos hold]
  have hdocument : Changelog.grouped (before ++ [.version id date]) = Changelog.grouped before := by
    rw [Changelog.grouped, Changelog.grouped, hids, hdate, hnames, entriesAt_eq_of_filings hfilings]
  obtain ⟨i, hi, hversion⟩ := findIdx?_of_mem (mem_ids.mpr hold)
  have hposition : r.document.position? id = some i := by
    rw [h.document, Changelog.grouped, Changelog.position?_ofParts, hi]
  unfold enterVersion
  rw [hposition]
  rw [← h.document] at hdocument
  refine h.atVersion (fun j => j) hdocument.symm rfl rfl Option.map_id'.symm ?_ ?_
  · rw [hids]
    exact hversion
  · rw [hids]
    exact fun hpoints => hpoints

/-- The document with a new version: nothing belongs to it yet, and the others stay. -/
theorem grouped_concat_new {id : Text} (date : Option Text) (hnew : id ∉ versionIds before) :
    Changelog.grouped (before ++ [.version id date]) =
      let added : Version := { Version.fresh id with date := date }
      if id = Version.head then ⟨added :: (Changelog.grouped before).versions⟩
      else ⟨(Changelog.grouped before).versions ++ [added]⟩ := by
  have hfilings : filings (before ++ [.version id date]) = filings before :=
    filings_concat_of_not_change rfl rfl
  have hnames : sectionNames (before ++ [.version id date]) = sectionNames before :=
    sectionNames_concat (.inr rfl)
  have hdate : firstDate (before ++ [.version id date]) =
      Function.update (firstDate before) id date := by
    rw [firstDate_concat_version, if_neg hnew]
  have hids : ids (before ++ [.version id date]) =
      if id = Version.head then id :: ids before else ids before ++ [id] := ids_concat_new hnew
  have hadded : Version.ofParts (Function.update (firstDate before) id date) (sectionNames before)
      (entriesAt before) id = { Version.fresh id with date := date } := by
    simp [Version.ofParts, Version.fresh, sectionNames_eq_nil hnew, entriesAt_eq_nil_of_id hnew]
  have hothers : (ids before).map (Version.ofParts (Function.update (firstDate before) id date)
      (sectionNames before) (entriesAt before)) = (Changelog.grouped before).versions := by
    refine List.map_congr_left fun id' hid' => Version.ofParts_congr ?_ rfl fun _ => rfl
    exact Function.update_of_ne (ne_of_mem_of_not_mem (mem_ids.mp hid') hnew) _ _
  rw [Changelog.grouped, Changelog.ofParts, hids, hdate, hnames, entriesAt_eq_of_filings hfilings]
  split
  · rw [List.map_cons, hadded, hothers]
  · rw [List.map_append, List.map_singleton, hadded, hothers]

/-- The heading of a new version puts it at the end, or `HEAD` in front, and goes to it. -/
theorem Tracks.newVersion (h : r.Tracks before) {id : Text} (date : Option Text)
    (hnew : id ∉ versionIds before) :
    (r.enterVersion id date).Tracks (before ++ [.version id date]) := by
  have hids : ids (before ++ [.version id date]) =
      if id = Version.head then id :: ids before else ids before ++ [id] := ids_concat_new hnew
  have hdocument := grouped_concat_new date hnew
  have hposition : r.document.position? id = none := by
    rw [h.document, Changelog.grouped, Changelog.position?_ofParts]
    refine List.findIdx?_eq_none_iff.mpr fun id' hid' => ?_
    simpa using ne_of_mem_of_not_mem (mem_ids.mp hid') hnew
  have hlength : r.document.versions.length = (ids before).length := by
    rw [h.document, Changelog.grouped, Changelog.ofParts, List.length_map]
  rw [← h.document] at hdocument
  unfold enterVersion
  rw [hposition]
  dsimp only at hdocument ⊢
  split
  · rename_i hhead
    rw [if_pos hhead] at hids hdocument
    refine h.atVersion (fun j => j + 1) hdocument.symm rfl rfl rfl ?_ ?_
    · rw [hids]
      rfl
    · rw [hids]
      exact fun hpoints => hpoints.cons id
  · rename_i hhead
    rw [if_neg hhead] at hids hdocument
    refine h.atVersion (fun j => j) hdocument.symm rfl rfl Option.map_id'.symm ?_ ?_
    · rw [hids, hlength, List.getElem?_concat_length]
    · rw [hids]
      exact fun hpoints => hpoints.mono (List.prefix_append _ _) fun _ => List.prefix_rfl

/-! ## 5. All lines -/

/-- **The reader keeps track**, line by line. -/
theorem Tracks.read (h : r.Tracks before) (line : Line) :
    (r.read line).Tracks (before ++ [line]) := by
  cases line with
  | version id date =>
      by_cases hold : id ∈ versionIds before
      · exact h.oldVersion date hold
      · exact h.newVersion date hold
  | heading name => exact h.heading name
  | change e => exact h.change e
  | blank => exact h.blank
  | other content => exact h.other content

theorem Tracks.readAll (h : r.Tracks before) (lines : List Line) :
    (r.readAll lines).Tracks (before ++ lines) := by
  induction lines generalizing r before with
  | nil => simpa [Reader.readAll] using h
  | cons line lines ih => simpa [Reader.readAll] using ih (h.read line)

end Reader

/-- **A file holds the document that its lines stand for.** -/
theorem Changelog.parse_eq (t : Text) : parse t = grouped (linesOf t) :=
  (Reader.tracks_start.readAll (linesOf t)).document

end MergeScribe
