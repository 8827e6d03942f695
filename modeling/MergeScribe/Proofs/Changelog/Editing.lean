import Mathlib.Data.List.Nodup
import MergeScribe.Changelog.Reader
import MergeScribe.Proofs.Changelog.Canonical

/-!
# Edits that keep a changelog canonical

Reading and entering change a document in few ways: one version, one section or one entry is changed
in place, or a version or a section is added. Each of them keeps versions apart and `HEAD` in front
(`Changelog.Ordered`), and keeps the document canonical when the new parts are. Edits in place are
told apart only by how they find their place, by an index or as the first of a name, so both are
shown to keep what every member and every change of a member has (`forall_mem_modify`,
`forall_mem_updateFirst`) and to keep names (`map_modify`, `map_updateFirst`).
-/

namespace MergeScribe

open Text

/-! ## 1. Changes in place -/

section InPlace

variable {α β : Type} {P : α → Prop} {f : α → α}

theorem forall_mem_modify (hf : ∀ a, P a → P (f a)) :
    {l : List α} → (∀ a ∈ l, P a) → (i : Nat) → ∀ a ∈ l.modify i f, P a
  | [], _, i => by simp
  | a :: l, h, 0 => by
      obtain ⟨ha, hl⟩ := List.forall_mem_cons.mp h
      exact List.forall_mem_cons.mpr ⟨hf a ha, hl⟩
  | a :: l, h, i + 1 => by
      obtain ⟨ha, hl⟩ := List.forall_mem_cons.mp h
      exact List.forall_mem_cons.mpr ⟨ha, forall_mem_modify hf hl i⟩

theorem map_modify {g : α → β} (hg : ∀ a, g (f a) = g a) :
    (l : List α) → (i : Nat) → (l.modify i f).map g = l.map g
  | [], i => by simp
  | a :: l, 0 => by simp [hg]
  | a :: l, i + 1 => by simp [map_modify hg l i]

/-- The last member is changed where the others end. -/
theorem modify_length_concat (f : α → α) (a : α) :
    (l : List α) → (l ++ [a]).modify l.length f = l ++ [f a]
  | [] => rfl
  | b :: l => by
      rw [List.cons_append, List.length_cons, List.modify_succ_cons, modify_length_concat f a l]
      rfl

theorem forall_mem_updateFirst {p : α → Bool} (hf : ∀ a, P a → P (f a)) :
    {l : List α} → (∀ a ∈ l, P a) → ∀ a ∈ updateFirst p f l, P a
  | [], h => h
  | a :: l, h => by
      obtain ⟨ha, hl⟩ := List.forall_mem_cons.mp h
      unfold updateFirst
      split
      · exact List.forall_mem_cons.mpr ⟨hf a ha, hl⟩
      · exact List.forall_mem_cons.mpr ⟨ha, forall_mem_updateFirst hf hl⟩

theorem map_updateFirst {g : α → β} {p : α → Bool} (hg : ∀ a, g (f a) = g a) :
    (l : List α) → (updateFirst p f l).map g = l.map g
  | [] => rfl
  | a :: l => by
      unfold updateFirst
      split
      · simp [hg]
      · simp [map_updateFirst hg l]

/-- The first member of a name is changed, whatever comes after it. -/
theorem updateFirst_append_cons [BEq β] [LawfulBEq β] {g : α → β} {name : β} {a : α}
    (ha : g a = name) {after : List α} : {before : List α} → (∀ b ∈ before, g b ≠ name) →
      updateFirst (fun b => g b == name) f (before ++ a :: after) = before ++ f a :: after
  | [], _ => if_pos (beq_iff_eq.mpr ha)
  | b :: before, h => by
      obtain ⟨hb, hbefore⟩ := List.forall_mem_cons.mp h
      rw [List.cons_append, updateFirst, if_neg (mt beq_iff_eq.mp hb),
        updateFirst_append_cons ha hbefore, List.cons_append]

/-- A member with a name of its own may be added. -/
theorem nodup_map_concat {g : α → β} {l : List α} {a : α} (h : (l.map g).Nodup)
    (hnew : ∀ b ∈ l, g b ≠ g a) : ((l ++ [a]).map g).Nodup := by
  rw [List.map_append, List.nodup_append]
  refine ⟨h, List.nodup_singleton _, fun x hx y hy => ?_⟩
  obtain ⟨b, hb, rfl⟩ := List.mem_map.mp hx
  rw [List.mem_singleton.mp hy]
  exact hnew b hb

/-- Among names of their own, a member is told from those before it. -/
theorem ne_of_nodup_map {g : α → β} {l more : List α} {a : α}
    (h : ((l ++ a :: more).map g).Nodup) : ∀ b ∈ l, g b ≠ g a := by
  intro b hb e
  rw [List.map_append, List.nodup_append] at h
  exact h.2.2 _ (List.mem_map_of_mem hb) _ (List.mem_map_of_mem List.mem_cons_self) e

/-- Among names of their own, a member is found by its name. -/
theorem find?_of_nodup_map [BEq β] [LawfulBEq β] {g : α → β} {l : List α} (h : (l.map g).Nodup)
    {a : α} (ha : a ∈ l) : l.find? (fun b => g b == g a) = some a := by
  obtain ⟨before, after, rfl⟩ := List.append_of_mem ha
  have hnew : ∀ b ∈ before, g b ≠ g a := ne_of_nodup_map h
  refine List.find?_eq_some_iff_append.mpr ⟨beq_self_eq_true _, before, after, rfl, fun b hb => ?_⟩
  simpa using hnew b hb

end InPlace

/-! ## 2. Sections -/

theorem Section.Canonical.withEntries {s : Section} (h : s.Canonical) {entries : List Entry}
    (he : ∀ e ∈ entries, e.Canonical) : Section.Canonical { s with entries := entries } :=
  ⟨h.name, he⟩

/-! ## 3. Versions -/

/-- A section made on demand has a name of its own. -/
theorem Version.nodup_names_ensureSection {v : Version} (h : (v.sections.map Section.name).Nodup)
    (name : Text) : ((v.ensureSection name).sections.map Section.name).Nodup := by
  unfold Version.ensureSection
  split
  · exact h
  · rename_i hnew
    refine nodup_map_concat h fun s hs e => hnew ?_
    exact List.any_eq_true.mpr ⟨s, hs, beq_iff_eq.mpr e⟩

namespace Version.Canonical

variable {v : Version}

theorem fresh {id : Text} {date : Option Text} (hid : Version.IsId id) (hd : ∀ d ∈ date, Phrase d) :
    Version.Canonical { Version.fresh id with date := date } where
  id := hid
  date := hd
  entries := List.forall_mem_nil _
  sections := List.forall_mem_nil _
  names := List.nodup_nil

theorem withEntries (h : v.Canonical) {entries : List Entry} (he : ∀ e ∈ entries, e.Canonical) :
    Version.Canonical { v with entries := entries } :=
  ⟨h.id, h.date, he, h.sections, h.names⟩

/-- Sections may change as long as they keep their names. -/
theorem withSections (h : v.Canonical) {sections : List Section} (hs : ∀ s ∈ sections, s.Canonical)
    (hn : sections.map Section.name = v.sections.map Section.name) :
    Version.Canonical { v with sections := sections } := by
  refine ⟨h.id, h.date, h.entries, hs, ?_⟩
  show (sections.map Section.name).Nodup
  rw [hn]
  exact h.names

theorem ensureSection (h : v.Canonical) {name : Text} (hn : Phrase name) :
    (v.ensureSection name).Canonical := by
  have hnames := nodup_names_ensureSection h.names name
  have hempty : Section.Canonical ⟨name, []⟩ := ⟨hn, List.forall_mem_nil _⟩
  unfold Version.ensureSection at hnames ⊢
  split
  · exact h
  · rename_i hnew
    rw [if_neg hnew] at hnames
    exact ⟨h.id, h.date, h.entries,
      List.forall_mem_append.mpr ⟨h.sections, List.forall_mem_singleton.mpr hempty⟩, hnames⟩

theorem modifyEntries (h : v.Canonical) {f : List Entry → List Entry}
    (hf : ∀ es : List Entry, (∀ e ∈ es, e.Canonical) → ∀ e ∈ f es, e.Canonical)
    (sectionAt : Option Nat) : (v.modifyEntries sectionAt f).Canonical := by
  cases sectionAt with
  | none => exact h.withEntries (hf v.entries h.entries)
  | some j =>
      refine h.withSections ?_ ?_
      · exact forall_mem_modify (fun s hs => hs.withEntries (hf s.entries hs.entries)) h.sections j
      · exact map_modify (f := fun s : Section => { s with entries := f s.entries })
          (fun _ => rfl) v.sections j

end Version.Canonical

theorem Version.ensureSection_id (v : Version) (name : Text) :
    (v.ensureSection name).id = v.id := by
  unfold Version.ensureSection
  split <;> rfl

theorem Version.modifyEntries_id (v : Version) (sectionAt : Option Nat)
    (f : List Entry → List Entry) : (v.modifyEntries sectionAt f).id = v.id := by
  cases sectionAt <;> rfl

/-! ## 4. The order of versions -/

/-- Versions have ids of their own, and `HEAD` comes first. -/
structure Changelog.Ordered (c : Changelog) : Prop where
  ids : (c.versions.map Version.id).Nodup
  headFirst : ∀ v ∈ c.versions.tail, v.id ≠ Version.head

theorem Changelog.Canonical.ordered {c : Changelog} (h : c.Canonical) : c.Ordered :=
  ⟨h.ids, h.headFirst⟩

/-- Of versions in order, each has an id of its own among those before it, and `HEAD` has none
before it. -/
theorem Changelog.Ordered.next {done more : List Version} {v : Version}
    (h : Changelog.Ordered ⟨done ++ v :: more⟩) :
    (∀ w ∈ done, w.id ≠ v.id) ∧ (v.id = Version.head → done = []) := by
  refine ⟨ne_of_nodup_map h.ids, fun e => ?_⟩
  cases done with
  | nil => rfl
  | cons first rest => exact absurd e (h.headFirst v (by simp))

theorem Version.entriesAt_section {v : Version} (h : (v.sections.map Section.name).Nodup)
    {s : Section} (hs : s ∈ v.sections) : v.entriesAt (.under s.name) = s.entries := by
  rw [entriesAt, section?, find?_of_nodup_map h hs]
  rfl

theorem Changelog.version?_of_mem {c : Changelog} (h : c.Ordered) {v : Version}
    (hv : v ∈ c.versions) : c.version? v.id = some v :=
  find?_of_nodup_map h.ids hv

theorem Changelog.entriesAt_version {c : Changelog} (h : c.Ordered) {v : Version}
    (hv : v ∈ c.versions) (place : Place) : c.entriesAt v.id place = v.entriesAt place := by
  rw [entriesAt, version?_of_mem h hv]
  rfl

namespace Changelog.Ordered

variable {c : Changelog}

/-- Versions may change as long as they keep their ids. -/
theorem withVersions (h : c.Ordered) {versions : List Version}
    (hids : versions.map Version.id = c.versions.map Version.id) :
    Changelog.Ordered ⟨versions⟩ := by
  refine ⟨?_, fun v hm => ?_⟩
  · show (versions.map Version.id).Nodup
    rw [hids]
    exact h.ids
  · have htail : v.id ∈ (c.versions.map Version.id).tail := by
      rw [← hids, ← List.map_tail]
      exact List.mem_map_of_mem hm
    rw [← List.map_tail] at htail
    obtain ⟨w, hw, e⟩ := List.mem_map.mp htail
    rw [← e]
    exact h.headFirst w hw

/-- A new version may go to the front unless that moves `HEAD` away from there. -/
theorem cons (h : c.Ordered) {v : Version} (hnew : ∀ w ∈ c.versions, w.id ≠ v.id)
    (hhead : ∀ w ∈ c.versions, w.id ≠ Version.head) : Changelog.Ordered ⟨v :: c.versions⟩ where
  ids := by
    refine List.nodup_cons.mpr ⟨fun hm => ?_, h.ids⟩
    obtain ⟨w, hw, e⟩ := List.mem_map.mp hm
    exact hnew w hw e
  headFirst := hhead

/-- A new version other than `HEAD` may go right behind the first. -/
theorem second {first v : Version} {more : List Version} (h : Changelog.Ordered ⟨first :: more⟩)
    (hnew : ∀ w ∈ first :: more, w.id ≠ v.id) (hhead : v.id ≠ Version.head) :
    Changelog.Ordered ⟨first :: v :: more⟩ where
  ids := by
    obtain ⟨hfirst, hmore⟩ := List.nodup_cons.mp h.ids
    have hvmore : v.id ∉ more.map Version.id := fun hm => by
      obtain ⟨w, hw, e⟩ := List.mem_map.mp hm
      exact hnew w (List.mem_cons_of_mem first hw) e
    refine List.nodup_cons.mpr ⟨fun hm => ?_, List.nodup_cons.mpr ⟨hvmore, hmore⟩⟩
    rcases List.mem_cons.mp hm with e | hm
    · exact hnew first List.mem_cons_self e
    · exact hfirst hm
  headFirst := List.forall_mem_cons.mpr ⟨hhead, h.headFirst⟩

/-- A version made on demand goes to the front, or right behind `HEAD`. -/
theorem insertFresh {id : Text} : {versions : List Version} → Changelog.Ordered ⟨versions⟩ →
    (∀ w ∈ versions, w.id ≠ id) → Changelog.Ordered ⟨Changelog.insertFresh id versions⟩
  | [], h, hnew => h.cons hnew fun w hw => nomatch hw
  | v :: more, h, hnew => by
      rw [Changelog.insertFresh]
      split
      · rename_i hc
        simp only [Bool.and_eq_true, bne_iff_ne] at hc
        exact h.second hnew hc.2
      · rename_i hc
        refine h.cons hnew (List.forall_mem_cons.mpr ⟨fun hv => ?_, h.headFirst⟩)
        refine hc ?_
        simp only [Version.isHead, Bool.and_eq_true, bne_iff_ne, beq_iff_eq]
        exact ⟨hv, fun e => hnew v List.mem_cons_self (hv.trans e.symm)⟩

/-- Any other new version goes to the end. -/
theorem concat (h : c.Ordered) {v : Version} (hnew : ∀ w ∈ c.versions, w.id ≠ v.id)
    (hhead : v.id ≠ Version.head) : Changelog.Ordered ⟨c.versions ++ [v]⟩ where
  ids := nodup_map_concat h.ids hnew
  headFirst := by
    intro w hw
    cases hc : c.versions with
    | nil =>
        rw [hc] at hw
        exact absurd hw List.not_mem_nil
    | cons first more =>
        rw [hc, List.cons_append, List.tail_cons] at hw
        rcases List.mem_append.mp hw with hw | hw
        · exact h.headFirst w (by rw [hc]; exact hw)
        · exact List.mem_singleton.mp hw ▸ hhead

end Changelog.Ordered

/-! ## 5. Changelogs -/

theorem Changelog.mem_insertFresh {id : Text} {w : Version} : {versions : List Version} →
    w ∈ insertFresh id versions ↔ w = Version.fresh id ∨ w ∈ versions
  | [] => by simp [insertFresh]
  | v :: more => by
      rw [insertFresh]
      split
      · simp only [List.mem_cons]
        exact or_left_comm
      · exact List.mem_cons

namespace Changelog.Canonical

variable {c : Changelog}

theorem ofOrdered {versions : List Version} (h : Changelog.Ordered ⟨versions⟩)
    (hv : ∀ v ∈ versions, v.Canonical) : Changelog.Canonical ⟨versions⟩ :=
  ⟨hv, h.ids, h.headFirst⟩

/-- Versions may change as long as they keep their ids. -/
theorem withVersions (h : c.Canonical) {versions : List Version} (hv : ∀ v ∈ versions, v.Canonical)
    (hids : versions.map Version.id = c.versions.map Version.id) :
    Changelog.Canonical ⟨versions⟩ :=
  ofOrdered (h.ordered.withVersions hids) hv

theorem modifyVersion (h : c.Canonical) {f : Version → Version}
    (hf : ∀ v : Version, v.Canonical → (f v).Canonical) (hid : ∀ v, (f v).id = v.id) (i : Nat) :
    (c.modifyVersion i f).Canonical :=
  h.withVersions (forall_mem_modify hf h.versions i) (map_modify hid c.versions i)

theorem update (h : c.Canonical) {f : Version → Version}
    (hf : ∀ v : Version, v.Canonical → (f v).Canonical) (hid : ∀ v, (f v).id = v.id) (id : Text) :
    (c.update id f).Canonical :=
  h.withVersions (forall_mem_updateFirst hf h.versions) (map_updateFirst hid c.versions)

/-- A new version may go to the front unless that moves `HEAD` away from there. -/
theorem cons (h : c.Canonical) {v : Version} (hv : v.Canonical)
    (hnew : ∀ w ∈ c.versions, w.id ≠ v.id) (hhead : ∀ w ∈ c.versions, w.id ≠ Version.head) :
    Changelog.Canonical ⟨v :: c.versions⟩ :=
  ofOrdered (h.ordered.cons hnew hhead) (List.forall_mem_cons.mpr ⟨hv, h.versions⟩)

/-- A version made on demand goes to the front, or right behind `HEAD`. -/
theorem insertFresh {id : Text} (hid : Version.IsId id) {versions : List Version}
    (h : Changelog.Canonical ⟨versions⟩) (hnew : ∀ w ∈ versions, w.id ≠ id) :
    Changelog.Canonical ⟨Changelog.insertFresh id versions⟩ := by
  refine ofOrdered (h.ordered.insertFresh hnew) fun w hw => ?_
  rcases mem_insertFresh.mp hw with rfl | hw
  · exact @Version.Canonical.fresh id none hid fun d hd => nomatch hd
  · exact h.versions w hw

/-- Any other new version goes to the end. -/
theorem concat (h : c.Canonical) {v : Version} (hv : v.Canonical)
    (hnew : ∀ w ∈ c.versions, w.id ≠ v.id) (hhead : v.id ≠ Version.head) :
    Changelog.Canonical ⟨c.versions ++ [v]⟩ :=
  ofOrdered (h.ordered.concat hnew hhead)
    (List.forall_mem_append.mpr ⟨h.versions, List.forall_mem_singleton.mpr hv⟩)

end Changelog.Canonical

end MergeScribe
