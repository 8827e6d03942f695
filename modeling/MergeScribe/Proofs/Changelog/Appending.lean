import MergeScribe.Proofs.Changelog.Edits
import MergeScribe.Proofs.Changelog.Insertion
import MergeScribe.Proofs.Changelog.Repeats

/-!
# The effect of entering

All that entering an entry does to a document. What a document becomes is said by relations that
show the parts that stay; in a well-formed document there is one way only (`Changelog.gains_iff`).
An entry whose reference is listed changes nothing, even if its place is made before it is looked at
(`Changelog.append_eq_appendMade`), and references that are listed stay so through later operations
(`Changelog.Lists.of_within`). Together: `Changelog.append_exact`.
-/

namespace MergeScribe

/-! ## 1. Places that exist -/

/-- The place exists in the version and has these entries. -/
def Version.Has (v : Version) (entries : List Entry) : Place → Prop
  | .direct => v.entries = entries
  | .under name => ∃ s ∈ v.sections, s.name = name ∧ s.entries = entries

/-- The place exists in a version of the id and has these entries. -/
def Changelog.Has (c : Changelog) (id : Text) (place : Place) (entries : List Entry) : Prop :=
  ∃ v ∈ c.versions, v.id = id ∧ v.Has entries place

/-- An entry with the reference is in the place, which exists. -/
def Changelog.Lists (c : Changelog) (id : Text) (place : Place) (reference : Option Text) : Prop :=
  ∃ r entries, reference = some r ∧ c.Has id place entries ∧ ∃ e ∈ entries, e.reference = some r

theorem Version.ensureSection_of_mem {v : Version} {s : Section} {name : Text}
    (hs : s ∈ v.sections) (hname : s.name = name) : v.ensureSection name = v := by
  refine if_pos ?_
  exact List.any_eq_true.mpr ⟨s, hs, beq_iff_eq.mpr hname⟩

theorem Changelog.ensureVersion_of_mem {c : Changelog} {v : Version} {id : Text}
    (hv : v ∈ c.versions) (hid : v.id = id) : c.ensureVersion id = c := by
  refine if_pos ?_
  exact List.any_eq_true.mpr ⟨v, hv, beq_iff_eq.mpr hid⟩

/-! ## 2. One entry more -/

/-- A version with an entry more: directly under its heading, last in a section that is there, or in
a section that is new and comes last. -/
inductive Version.Gains (e : Entry) : Place → Version → Version → Prop
  | direct (v : Version) : Gains e .direct v { v with entries := v.entries ++ [e] }
  | inSection {id : Text} {date : Option Text} {entries : List Entry} {before after : List Section}
      (s : Section) :
      Gains e (.under s.name) ⟨id, date, entries, before ++ s :: after⟩
        ⟨id, date, entries, before ++ ⟨s.name, s.entries ++ [e]⟩ :: after⟩
  | inNewSection (v : Version) {name : Text} (missing : ∀ s ∈ v.sections, s.name ≠ name) :
      Gains e (.under name) v { v with sections := v.sections ++ [⟨name, [e]⟩] }

/-- A document with an entry more: in a version that is there, or in a version that is new and comes
first, but behind `HEAD` unless it is `HEAD` itself. -/
inductive Changelog.Gains (e : Entry) (id : Text) (place : Place) : Changelog → Changelog → Prop
  | inVersion {before after : List Version} {v v' : Version} (hid : v.id = id)
      (gains : Version.Gains e place v v') :
      Gains e id place ⟨before ++ v :: after⟩ ⟨before ++ v' :: after⟩
  | inFirst {versions : List Version} {v' : Version} (missing : ∀ v ∈ versions, v.id ≠ id)
      (hfirst : id = Version.head ∨ ∀ v ∈ versions, v.id ≠ Version.head)
      (gains : Version.Gains e place (.fresh id) v') :
      Gains e id place ⟨versions⟩ ⟨v' :: versions⟩
  | behindHead {head v' : Version} {more : List Version} (missing : ∀ v ∈ head :: more, v.id ≠ id)
      (hhead : head.id = Version.head) (hid : id ≠ Version.head)
      (gains : Version.Gains e place (.fresh id) v') :
      Gains e id place ⟨head :: more⟩ ⟨head :: v' :: more⟩

namespace Version

variable {v v' : Version} {e : Entry} {place : Place}

/-- With section names of their own, a version can gain an entry in one way only. -/
theorem Gains.eq_append (hn : (v.sections.map Section.name).Nodup) (h : Gains e place v v') :
    v' = v.append e place := by
  cases h with
  | direct => rfl
  | @inSection id date entries before after s =>
      have hmem : s ∈ before ++ s :: after := List.mem_append_right before List.mem_cons_self
      have hsection : updateFirst (fun b => b.name == s.name)
          (fun s => { s with entries := s.entries ++ [e] }) (before ++ s :: after) =
            before ++ ⟨s.name, s.entries ++ [e]⟩ :: after :=
        updateFirst_append_cons (g := Section.name) rfl (ne_of_nodup_map hn)
      rw [append, ensureSection_of_mem hmem rfl, hsection]
  | @inNewSection _ name missing =>
      have hnone : v.sections.any (fun s => s.name == name) = false := by simpa using missing
      have hlast : updateFirst (fun s => s.name == name)
          (fun s => { s with entries := s.entries ++ [e] }) (v.sections ++ [⟨name, []⟩]) =
            v.sections ++ [⟨name, [e]⟩] :=
        updateFirst_append_cons (g := Section.name) (a := ⟨name, []⟩) rfl missing
      simp only [append, ensureSection, hnone, Bool.false_eq_true, if_false, hlast]

theorem exists_gains (v : Version) (e : Entry) (place : Place) : ∃ v', Gains e place v v' := by
  cases place with
  | direct => exact ⟨_, .direct v⟩
  | under name =>
      by_cases h : ∃ s ∈ v.sections, s.name = name
      · obtain ⟨s, hs, rfl⟩ := h
        obtain ⟨id, date, entries, sections⟩ := v
        obtain ⟨before, after, rfl⟩ := List.append_of_mem hs
        exact ⟨_, .inSection s⟩
      · exact ⟨_, .inNewSection v fun s hs e => h ⟨s, hs, e⟩⟩

end Version

namespace Changelog

variable {c c' : Changelog} {e : Entry} {id : Text} {place : Place}

theorem insertFresh_first {versions : List Version}
    (h : id = Version.head ∨ ∀ v ∈ versions, v.id ≠ Version.head) :
    insertFresh id versions = Version.fresh id :: versions := by
  cases versions with
  | nil => rfl
  | cons v more =>
      refine if_neg fun hc => ?_
      simp only [Version.isHead, Bool.and_eq_true, beq_iff_eq, bne_iff_ne] at hc
      rcases h with hid | hnone
      · exact hc.2 hid
      · exact hnone v List.mem_cons_self hc.1

/-- The version of an id is updated where it is. -/
theorem update_of_append {before after : List Version} {v : Version}
    (hbefore : ∀ w ∈ before, w.id ≠ id) (hid : v.id = id) (f : Version → Version) :
    update ⟨before ++ v :: after⟩ id f = ⟨before ++ f v :: after⟩ :=
  congrArg Changelog.mk (updateFirst_append_cons (g := Version.id) hid hbefore)

theorem enter_eq_of_ensureVersion {before after : List Version} {v : Version}
    (hc : c.ensureVersion id = ⟨before ++ v :: after⟩) (hbefore : ∀ w ∈ before, w.id ≠ id)
    (hid : v.id = id) (place : Place) (e : Entry) :
    c.enter id place e = ⟨before ++ v.append e place :: after⟩ := by
  rw [enter, hc, update_of_append hbefore hid]

/-- In a well-formed document an entry can be gained in one way only. -/
theorem Gains.eq_enter (h : c.WellFormed) (hg : Gains e id place c c') :
    c' = c.enter id place e := by
  have hfresh : ((Version.fresh id).sections.map Section.name).Nodup := List.nodup_nil
  cases hg with
  | @inVersion before after v v' hid gains =>
      have hmem : v ∈ before ++ v :: after := List.mem_append_right before List.mem_cons_self
      have hc : ensureVersion ⟨before ++ v :: after⟩ id = ⟨before ++ v :: after⟩ :=
        ensureVersion_of_mem hmem hid
      have hbefore : ∀ w ∈ before, w.id ≠ id := hid ▸ ne_of_nodup_map h.ordered.ids
      rw [enter_eq_of_ensureVersion hc hbefore hid,
        gains.eq_append (h.names v hmem)]
  | @inFirst versions v' missing hfirst gains =>
      have hnone : ¬ versions.any (fun w => w.id == id) = true := by simpa using missing
      have hc : ensureVersion ⟨versions⟩ id = ⟨[] ++ Version.fresh id :: versions⟩ := by
        rw [ensureVersion, if_neg hnone, insertFresh_first hfirst]
        rfl
      rw [enter_eq_of_ensureVersion hc (List.forall_mem_nil _) rfl, gains.eq_append hfresh]
      rfl
  | @behindHead head v' more missing hhead hid gains =>
      have hnone : ¬ (head :: more).any (fun w => w.id == id) = true := by simpa using missing
      have hc : ensureVersion ⟨head :: more⟩ id = ⟨[head] ++ Version.fresh id :: more⟩ := by
        rw [ensureVersion, if_neg hnone, insertFresh, if_pos (by simp [Version.isHead, hhead, hid])]
        rfl
      have hbefore : ∀ w ∈ [head], w.id ≠ id :=
        List.forall_mem_singleton.mpr (missing head List.mem_cons_self)
      rw [enter_eq_of_ensureVersion hc hbefore rfl, gains.eq_append hfresh]
      rfl

theorem exists_gains (h : c.WellFormed) (e : Entry) (id : Text) (place : Place) :
    ∃ c', Gains e id place c c' := by
  obtain ⟨versions⟩ := c
  by_cases hthere : ∃ v ∈ versions, v.id = id
  · obtain ⟨v, hv, hid⟩ := hthere
    obtain ⟨v', gains⟩ := v.exists_gains e place
    obtain ⟨before, after, rfl⟩ := List.append_of_mem hv
    exact ⟨_, .inVersion hid gains⟩
  -- a new version comes first, unless another has to stay there for being `HEAD`
  have missing : ∀ v ∈ versions, v.id ≠ id := fun v hv hid => hthere ⟨v, hv, hid⟩
  obtain ⟨v', gains⟩ := (Version.fresh id).exists_gains e place
  by_cases hid : id = Version.head
  · exact ⟨_, .inFirst missing (.inl hid) gains⟩
  cases versions with
  | nil => exact ⟨_, .inFirst missing (.inr (List.forall_mem_nil _)) gains⟩
  | cons v more =>
      by_cases hhead : v.id = Version.head
      · exact ⟨_, .behindHead missing hhead hid gains⟩
      · have hnone : ∀ w ∈ v :: more, w.id ≠ Version.head :=
          List.forall_mem_cons.mpr ⟨hhead, h.ordered.headFirst⟩
        exact ⟨_, .inFirst missing (.inr hnone) gains⟩

/-- **In a well-formed document there is one way to gain an entry**, and entering takes it. -/
theorem gains_iff (h : c.WellFormed) : Gains e id place c c' ↔ c' = c.enter id place e := by
  -- some document has it gained, and each such document is what entering gives
  refine ⟨Gains.eq_enter h, fun e' => ?_⟩
  obtain ⟨c'', hg⟩ := exists_gains h e id place
  rw [e', ← hg.eq_enter h]
  exact hg

end Changelog

/-! ## 3. Listed references -/

namespace Version

variable {v v' : Version} {entries : List Entry} {place : Place}

theorem Has.entriesAt (h : v.Has entries place) (hn : (v.sections.map Section.name).Nodup) :
    v.entriesAt place = entries := by
  cases place with
  | direct => exact h
  | under name =>
      obtain ⟨s, hs, rfl, rfl⟩ := h
      exact entriesAt_section hn hs

theorem has_entriesAt {e : Entry} (h : e ∈ v.entriesAt place) :
    v.Has (v.entriesAt place) place := by
  cases place with
  | direct => rfl
  | under name =>
      rw [Version.entriesAt] at h ⊢
      cases hs : v.section? name with
      | none =>
          rw [hs] at h
          cases h
      | some s =>
          have hname : s.name = name := by simpa using List.find?_some hs
          exact ⟨s, List.mem_of_find?_eq_some hs, hname, rfl⟩

end Version

namespace Changelog

variable {c c' : Changelog} {e : Entry} {id : Text} {place : Place}

theorem Has.entriesAt {entries : List Entry} (h : c.Has id place entries) (hc : c.WellFormed) :
    c.entriesAt id place = entries := by
  obtain ⟨v, hv, rfl, hplace⟩ := h
  rw [entriesAt_version hc.ordered hv]
  exact hplace.entriesAt (hc.names v hv)

theorem has_entriesAt (h : e ∈ c.entriesAt id place) : c.Has id place (c.entriesAt id place) := by
  unfold Changelog.entriesAt at h ⊢
  cases hv : c.version? id with
  | none =>
      rw [hv] at h
      cases h
  | some v =>
      rw [hv] at h
      have hid : v.id = id := by simpa using List.find?_some hv
      exact ⟨v, List.mem_of_find?_eq_some hv, hid, Version.has_entriesAt h⟩

/-- An entry is turned away exactly if its place exists and has an entry of the same reference. -/
theorem listed_iff_lists (h : c.WellFormed) (id : Text) (place : Place) (reference : Option Text) :
    Entry.listed (c.entriesAt id place) reference = true ↔ c.Lists id place reference := by
  cases reference with
  | none => exact ⟨nofun, fun ⟨r, _, hr, _⟩ => nomatch hr⟩
  | some r =>
      rw [Entry.listed, List.any_eq_true]
      constructor
      · rintro ⟨e, he, hr⟩
        exact ⟨r, _, rfl, has_entriesAt he, e, he, beq_iff_eq.mp hr⟩
      · rintro ⟨r', entries, hr, hhas, e, he, her⟩
        obtain rfl : r = r' := Option.some.inj hr
        rw [hhas.entriesAt h]
        exact ⟨e, he, beq_iff_eq.mpr her⟩

/-! ## 4. Places made before they are looked at -/

/-- The document with a place of a version, made if it was missing. -/
def make (c : Changelog) (id : Text) : Place → Changelog
  | .direct => c.ensureVersion id
  | .under name => c.ensureSection id name

/-- Make a place, look whether it lists the reference of an entry, and enter the entry if not. -/
def appendMade (c : Changelog) (id : Text) (place : Place) (e : Entry) : Bool × Changelog :=
  if Entry.listed ((c.make id place).entriesAt id place) e.reference then (false, c.make id place)
  else (true, (c.make id place).update id fun v => v.append e place)

theorem entriesAt_make (c : Changelog) (id : Text) (place : Place) :
    (c.make id place).entriesAt id place = c.entriesAt id place := by
  cases place with
  | direct =>
      rw [make, entriesAt, version?_ensureVersion, if_pos rfl, entriesAt]
      cases c.version? id <;> rfl
  | under name =>
      rw [make, ensureSection, entriesAt, version?_update (fun v => v.ensureSection_id name),
        if_pos rfl, version?_ensureVersion, if_pos rfl, entriesAt]
      have hkept (v : Version) :
          (v.ensureSection name).entriesAt (.under name) = v.entriesAt (.under name) := by
        rw [Version.entriesAt, Version.section?_ensureSection, if_pos rfl, Version.entriesAt]
        cases v.section? name <;> rfl
      cases c.version? id with
      | none => exact hkept (Version.fresh id)
      | some v => exact hkept v

/-- A place that exists is not made. -/
theorem make_of_has {entries : List Entry} (h : c.Has id place entries) (hc : c.WellFormed) :
    c.make id place = c := by
  obtain ⟨v, hv, hid, hplace⟩ := h
  have hversion := ensureVersion_of_mem hv hid
  cases place with
  | direct => exact hversion
  | under name =>
      obtain ⟨s, hs, hname, -⟩ := hplace
      have hsection := Version.ensureSection_of_mem hs hname
      obtain ⟨versions⟩ := c
      obtain ⟨before, after, rfl⟩ := List.append_of_mem hv
      have hbefore : ∀ w ∈ before, w.id ≠ id := hid ▸ ne_of_nodup_map hc.ordered.ids
      rw [make, ensureSection, hversion, update_of_append hbefore hid, hsection]

/-- An entry is entered by making its place and then adding to it. -/
theorem update_make (c : Changelog) (id : Text) (place : Place) (e : Entry) :
    ((c.make id place).update id fun v => v.append e place) = c.enter id place e := by
  cases place with
  | direct => rfl
  | under name =>
      have hsection (v : Version) :
          (v.ensureSection name).append e (.under name) = v.append e (.under name) := by
        have hthere : (v.ensureSection name).ensureSection name = v.ensureSection name :=
          if_pos (v.any_ensureSection name)
        rw [Version.append, hthere, Version.append]
      have htwice := updateFirst_updateFirst (p := fun v : Version => v.id == id)
        (f := fun v => v.ensureSection name) (g := fun v => v.append e (.under name))
        (fun v => by rw [v.ensureSection_id]) (c.ensureVersion id).versions
      simp only [hsection] at htwice
      rw [make, ensureSection, update, update, htwice]
      rfl

/-- **An entry is turned away without a trace**, even if its place is made before it is looked
at. -/
theorem append_eq_appendMade (h : c.WellFormed) (id : Text) (place : Place) (e : Entry) :
    c.append id place e = c.appendMade id place e := by
  rw [appendMade, entriesAt_make, update_make]
  cases hl : Entry.listed (c.entriesAt id place) e.reference with
  | true =>
      obtain ⟨r, entries, -, hhas, -⟩ := (listed_iff_lists h id place e.reference).mp hl
      rw [append_of_listed hl, make_of_has hhas h, if_pos rfl]
  | false => rw [append_of_not_listed hl, if_neg Bool.false_ne_true]

end Changelog

/-! ## 5. Later operations -/

/-- A place goes on with its version: it keeps its entries in front. -/
theorem Version.Has.of_within {v v' : Version} {entries : List Entry} {place : Place}
    (h : v.Has entries place) (hw : v.Within v') :
    ∃ entries', entries <+: entries' ∧ v'.Has entries' place := by
  cases place with
  | direct =>
      obtain rfl : v.entries = entries := h
      exact ⟨v'.entries, hw.entries, rfl⟩
  | under name =>
      obtain ⟨s, hs, hname, rfl⟩ := h
      obtain ⟨s', hs', hsection⟩ := exists_of_sublistForall₂ hw.sections s hs
      exact ⟨s'.entries, hsection.entries, s', hs', hsection.name.trans hname, rfl⟩

namespace Changelog

variable {c c' : Changelog}

/-- **A document that goes on lists what it listed.** -/
theorem Lists.of_within {id : Text} {place : Place} {reference : Option Text}
    (h : c.Lists id place reference) (hw : c.Within c') : c'.Lists id place reference := by
  obtain ⟨r, entries, hr, ⟨v, hv, hid, hplace⟩, e, he, her⟩ := h
  obtain ⟨v', hv', hversion⟩ := exists_of_sublistForall₂ hw v hv
  obtain ⟨entries', hkept, hplace'⟩ := hplace.of_within hversion
  exact ⟨r, entries', hr, ⟨v', hv', hversion.id.trans hid, hplace'⟩, e, hkept.subset he, her⟩

/-- References that are apart stay so. -/
theorem Apart.append (h : c.Apart) (id : Text) (place : Place) (e : Entry) :
    (c.append id place e).2.Apart := by
  cases hl : Entry.listed (c.entriesAt id place) e.reference with
  | true =>
      rw [append_of_listed hl]
      exact h
  | false =>
      intro id' place'
      rw [entriesAt_append hl]
      split
      · refine Entry.nodup_references_concat.mpr ⟨h id place, fun r hr hm => ?_⟩
        rw [hr, Entry.listed_iff.mpr hm] at hl
        cases hl
      · exact h id' place'

/-! ## 6. The effect -/

/-- **All that entering does** to a well-formed document. An entry is turned away exactly if its
place exists and has an entry of the same reference, and then the document stays as it is. Otherwise
the document gains the entry and changes in nothing else. The same comes out if the place is made
before it is looked at. References that were apart stay apart, and once an entry with a reference was
entered or turned away, no later entry with that reference changes anything when it is to go to the
same place, whatever was added in between. -/
theorem append_exact (h : c.WellFormed) (id : Text) (place : Place) (e : Entry) :
    (∀ c', c.append id place e = (false, c') ↔ c.Lists id place e.reference ∧ c' = c) ∧
    (∀ c', c.append id place e = (true, c') ↔
      ¬ c.Lists id place e.reference ∧ Gains e id place c c') ∧
    c.append id place e = c.appendMade id place e ∧
    (c.Apart → (c.append id place e).2.Apart) ∧
    ∀ later e', (∀ edit ∈ later, edit.goesOn = true) → e.reference ≠ none →
      e'.reference = e.reference →
      let c' := Edit.runFrom (c.append id place e).2 later
      c'.append id place e' = (false, c') := by
  have hlists := listed_iff_lists h id place e.reference
  refine ⟨fun c' => ?_, fun c' => ?_, append_eq_appendMade h id place e,
    fun hapart => hapart.append id place e, fun later e' hlater hr he' => ?_⟩
  · rw [← hlists]
    cases hl : Entry.listed (c.entriesAt id place) e.reference with
    | true => simp [append_of_listed hl, eq_comm]
    | false => simp [append_of_not_listed hl]
  · rw [← hlists, gains_iff h]
    cases hl : Entry.listed (c.entriesAt id place) e.reference with
    | true => simp [append_of_listed hl]
    | false => simp [append_of_not_listed hl, eq_comm]
  · intro c'
    obtain ⟨r, hr⟩ := Option.ne_none_iff_exists'.mp hr
    have hwithin : (c.append id place e).2.Within c' := Edit.within_runFrom hlater
    have hc' : c'.WellFormed := Edit.runFrom_wellFormed (h.append id place e) later
    have hfirst : (c.append id place e).2.Lists id place (some r) :=
      (listed_iff_lists (h.append id place e) id place (some r)).mp (listed_append hr)
    refine append_of_listed ?_
    rw [he', hr]
    exact (listed_iff_lists hc' id place (some r)).mpr (hfirst.of_within hwithin)

/-- The change is known under `HEAD`, but not under an older version, which is made behind it. -/
theorem append_exact_older :
    let bugs : Section := ⟨"Bugs", [⟨"One", some "#1"⟩]⟩
    let c : Changelog := ⟨[⟨"HEAD", none, [], [bugs]⟩]⟩
    let e : Entry := ⟨"Uno", some "#1"⟩
    let c' : Changelog := ⟨[⟨"HEAD", none, [], [bugs]⟩, ⟨"1.0.0", none, [], [⟨"Bugs", [e]⟩]⟩]⟩
    c.append "HEAD" (.under "Bugs") e = (false, c) ∧
      c.append "1.0.0" (.under "Bugs") e = (true, c') ∧
      let c'' := (c'.append "1.0.0" .direct ⟨"One", some "#1"⟩).2
      c''.append "1.0.0" (.under "Bugs") ⟨"Eins", some "#1"⟩ = (false, c'') := by
  intro bugs c e c'
  have h : c.WellFormed := ⟨⟨by decide, by decide⟩, by decide⟩
  have hlisted : c.Lists "HEAD" (.under "Bugs") e.reference :=
    ⟨"#1", bugs.entries, rfl, ⟨_, List.mem_cons_self, rfl, bugs, List.mem_cons_self, rfl, rfl⟩, _,
      List.mem_cons_self, rfl⟩
  have hnot : ¬ c.Lists "1.0.0" (.under "Bugs") e.reference := by
    rintro ⟨_, _, -, ⟨v, hv, hid, -⟩, -⟩
    obtain rfl := List.mem_singleton.mp hv
    exact absurd hid (by decide)
  have hgains : Gains e "1.0.0" (.under "Bugs") c c' :=
    .behindHead (by decide) rfl (by decide) (.inNewSection (.fresh "1.0.0") (List.forall_mem_nil _))
  obtain ⟨hfalse, -⟩ := append_exact h "HEAD" (.under "Bugs") e
  obtain ⟨-, htrue, -, -, hlater⟩ := append_exact h "1.0.0" (.under "Bugs") e
  have happend := (htrue c').mpr ⟨hnot, hgains⟩
  refine ⟨(hfalse c).mpr ⟨hlisted, rfl⟩, happend, ?_⟩
  have hsecond := hlater [.append "1.0.0" .direct ⟨"One", some "#1"⟩] ⟨"Eins", some "#1"⟩
    (List.forall_mem_singleton.mpr rfl) (by decide) rfl
  rw [happend] at hsecond
  exact hsecond

end Changelog

end MergeScribe
