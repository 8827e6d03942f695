import MergeScribe.Changelog.Merge
import MergeScribe.Proofs.Changelog.RoundTrip

/-!
# Entering a change

What entering does to the entries of each place, and that it keeps a changelog canonical. Main
statements: an entry goes last in its place and all other places stay as they are
(`Changelog.entriesAt_append`); a canonical changelog stays canonical
(`Changelog.Canonical.append`); and so a file with a change entered holds the document with the
change entered (`Changelog.parse_addMerge`).
-/

namespace MergeScribe

open Text

/-! ## 1. Looking up what was changed -/

section Lookup

variable {α : Type} {p q : α → Bool} {f : α → α}

theorem find?_updateFirst_self (hf : ∀ a, p (f a) = p a) :
    (l : List α) → (updateFirst p f l).find? p = (l.find? p).map f
  | [] => rfl
  | a :: l => by
      by_cases h : p a = true
      · simp [updateFirst, h, hf]
      · simp [updateFirst, h, find?_updateFirst_self hf l]

/-- Two changes of the first member with a property are one. -/
theorem updateFirst_updateFirst {g : α → α} (hf : ∀ a, p (f a) = p a) :
    (l : List α) → updateFirst p g (updateFirst p f l) = updateFirst p (fun a => g (f a)) l
  | [] => rfl
  | a :: l => by
      by_cases h : p a = true
      · simp [updateFirst, h, hf]
      · simp [updateFirst, h, updateFirst_updateFirst hf l]

theorem find?_updateFirst_other (hf : ∀ a, q (f a) = q a) (hd : ∀ a, p a = true → q a = false) :
    (l : List α) → (updateFirst p f l).find? q = l.find? q
  | [] => rfl
  | a :: l => by
      by_cases h : p a = true
      · simp [updateFirst, h, hf, hd a h]
      · have he : updateFirst p f (a :: l) = a :: updateFirst p f l := by simp [updateFirst, h]
        rw [he, List.find?_cons, List.find?_cons, find?_updateFirst_other hf hd l]

end Lookup

/-! ## 2. The entries of a version -/

namespace Version

theorem section?_ensureSection (v : Version) (name other : Text) :
    (v.ensureSection name).section? other =
      if other = name then some ((v.section? name).getD ⟨name, []⟩) else v.section? other := by
  unfold ensureSection
  split
  · rename_i h
    split
    · rename_i e
      subst e
      cases hs : v.section? other with
      | some s => rfl
      | none =>
          have hnone := List.find?_eq_none.mp hs
          obtain ⟨s, hm, he⟩ := List.any_eq_true.mp h
          exact absurd he (hnone s hm)
    · rfl
  · rename_i h
    have hnone : v.section? name = none := by
      refine List.find?_eq_none.mpr fun s hm he => h ?_
      exact List.any_eq_true.mpr ⟨s, hm, he⟩
    show (v.sections ++ [(⟨name, []⟩ : Section)]).find? (fun s => s.name == other) = _
    rw [List.find?_append]
    split
    · rename_i e
      subst e
      have hnone' : v.sections.find? (fun s => s.name == other) = none := hnone
      rw [hnone', hnone]
      simp
    · rename_i e
      have hne : (name == other) = false := by simpa using Ne.symm e
      simp [section?, hne]

/-- **An entry goes last in its place, and the other places of the version stay as they are.** -/
theorem entriesAt_append (v : Version) (e : Entry) (place other : Place) :
    (v.append e place).entriesAt other =
      if other = place then v.entriesAt place ++ [e] else v.entriesAt other := by
  cases place with
  | direct =>
      cases other with
      | direct => rfl
      | under name => rfl
  | under name =>
      cases other with
      | direct =>
          show (v.ensureSection name).entries = v.entries
          unfold ensureSection
          split <;> rfl
      | under other =>
          show (((updateFirst (fun s => s.name == name)
            (fun s => { s with entries := s.entries ++ [e] }) (v.ensureSection name).sections).find?
              fun s => s.name == other).map Section.entries).getD [] = _
          by_cases h : other = name
          · subst h
            have hs := section?_ensureSection v other other
            rw [if_pos rfl] at hs
            rw [find?_updateFirst_self
              (f := fun s : Section => { s with entries := s.entries ++ [e] }) fun _ => rfl]
            show (((v.ensureSection other).section? other).map _ |>.map _).getD [] = _
            rw [hs, if_pos rfl]
            cases hv : v.section? other with
            | none => simp [entriesAt, hv]
            | some s => simp [entriesAt, hv]
          · have hs := section?_ensureSection v name other
            rw [if_neg h] at hs
            have hd : ∀ s : Section, (s.name == name) = true → (s.name == other) = false := by
              intro s hn
              rw [beq_iff_eq.mp hn]
              simpa using Ne.symm h
            rw [find?_updateFirst_other
              (f := fun s : Section => { s with entries := s.entries ++ [e] }) (fun _ => rfl) hd]
            show (((v.ensureSection name).section? other).map Section.entries).getD [] = _
            rw [hs, if_neg (by simpa using h)]
            rfl

theorem append_id (v : Version) (e : Entry) (place : Place) : (v.append e place).id = v.id := by
  cases place with
  | direct => rfl
  | under name => exact v.ensureSection_id name

theorem entriesAt_fresh (id : Text) (place : Place) : (fresh id).entriesAt place = [] := by
  cases place <;> rfl

/-- The sections of a version stay, in their order. -/
theorem names_isPrefix_append (v : Version) (e : Entry) (place : Place) :
    v.sections.map Section.name <+: (v.append e place).sections.map Section.name := by
  cases place with
  | direct => exact List.prefix_rfl
  | under name =>
      have hsame : (v.append e (.under name)).sections.map Section.name =
          (v.ensureSection name).sections.map Section.name :=
        map_updateFirst (f := fun s : Section => { s with entries := s.entries ++ [e] })
          (fun _ => rfl) _
      rw [hsame, ensureSection]
      split
      · exact List.prefix_rfl
      · exact List.map_append ▸ List.prefix_append _ _

end Version

/-! ## 3. The entries of a changelog -/

namespace Changelog

theorem find?_insertFresh (id other : Text) :
    {vs : List Version} → vs.find? (fun v => v.id == id) = none →
      (insertFresh id vs).find? (fun v => v.id == other) =
        if other = id then some (Version.fresh id) else vs.find? fun v => v.id == other
  | [], _ => by
      by_cases h : other = id
      · simp [insertFresh, Version.fresh, h]
      · simp [insertFresh, Version.fresh, h, Ne.symm h]
  | v :: vs, hnone => by
      have hv : v.id ≠ id := by simpa using List.find?_eq_none.mp hnone v List.mem_cons_self
      rw [insertFresh]
      split
      · by_cases h : other = id
        · subst h
          simp [Version.fresh, hv]
        · by_cases hvo : v.id = other
          · simp [hvo, h]
          · simp [Version.fresh, hvo, h, Ne.symm h]
      · by_cases h : other = id
        · simp [Version.fresh, h]
        · simp [Version.fresh, h, Ne.symm h]

theorem version?_ensureVersion (c : Changelog) (id other : Text) :
    (c.ensureVersion id).version? other =
      if other = id then some ((c.version? id).getD (Version.fresh id)) else c.version? other := by
  unfold ensureVersion
  split
  · rename_i h
    obtain ⟨v, hm, he⟩ := List.any_eq_true.mp h
    split
    · rename_i e
      subst e
      cases hv : c.version? other with
      | some w => rfl
      | none => exact absurd he (List.find?_eq_none.mp hv v hm)
    · rfl
  · rename_i h
    have hnone : c.version? id = none :=
      List.find?_eq_none.mpr fun v hm he => h (List.any_eq_true.mpr ⟨v, hm, he⟩)
    rw [hnone]
    exact find?_insertFresh id other hnone

theorem version?_update {f : Version → Version} (hf : ∀ v, (f v).id = v.id) (c : Changelog)
    (id other : Text) :
    (c.update id f).version? other =
      if other = id then (c.version? id).map f else c.version? other := by
  split
  · rename_i e
    subst e
    exact find?_updateFirst_self (fun v => by rw [hf]) c.versions
  · rename_i e
    refine find?_updateFirst_other (fun v => by rw [hf]) (fun v hv => ?_) c.versions
    rw [beq_iff_eq.mp hv]
    simpa using Ne.symm e

/-- An entry that is not listed goes into the version of the id, which is made if it was missing. -/
theorem version?_append {c : Changelog} {id : Text} {place : Place} {e : Entry}
    (h : Entry.listed (c.entriesAt id place) e.reference = false) (id' : Text) :
    (c.append id place e).2.version? id' =
      if id' = id then some (((c.version? id).getD (Version.fresh id)).append e place)
      else c.version? id' := by
  unfold append
  rw [h]
  show ((c.ensureVersion id).update id fun v => v.append e place).version? id' = _
  rw [version?_update (fun v => v.append_id e place), version?_ensureVersion,
    version?_ensureVersion, if_pos rfl]
  split <;> rfl

/-- **An entry goes last in its place, and all other places stay as they are.** -/
theorem entriesAt_append {c : Changelog} {id : Text} {place : Place} {e : Entry}
    (h : Entry.listed (c.entriesAt id place) e.reference = false) (id' : Text) (place' : Place) :
    (c.append id place e).2.entriesAt id' place' =
      if id' = id ∧ place' = place then c.entriesAt id place ++ [e]
      else c.entriesAt id' place' := by
  unfold entriesAt
  rw [version?_append h]
  by_cases hid : id' = id
  · subst hid
    rw [if_pos rfl]
    show (((c.version? id').getD (Version.fresh id')).append e place).entriesAt place' = _
    rw [Version.entriesAt_append]
    cases c.version? id' with
    | some v => simp
    | none => simp [Version.entriesAt_fresh]
  · simp [hid]

theorem append_of_listed {c : Changelog} {id : Text} {place : Place} {e : Entry}
    (h : Entry.listed (c.entriesAt id place) e.reference = true) :
    c.append id place e = (false, c) := by
  unfold append
  rw [h]
  rfl

/-- Each place keeps its entries, in their order. -/
theorem entriesAt_isPrefix_append (c : Changelog) (id : Text) (place : Place) (e : Entry)
    (id' : Text) (place' : Place) :
    c.entriesAt id' place' <+: (c.append id place e).2.entriesAt id' place' := by
  cases h : Entry.listed (c.entriesAt id place) e.reference with
  | true =>
      rewrite [append_of_listed h]
      exact List.prefix_rfl
  | false =>
      rw [entriesAt_append h]
      split
      · rename_i hs
        obtain ⟨rfl, rfl⟩ := hs
        exact List.prefix_append _ _
      · exact List.prefix_rfl

/-- No entry is lost. -/
theorem mem_entriesAt_append {c : Changelog} {id' : Text} {place' : Place} {e' : Entry}
    (h : e' ∈ c.entriesAt id' place') (id : Text) (place : Place) (e : Entry) :
    e' ∈ (c.append id place e).2.entriesAt id' place' :=
  (c.entriesAt_isPrefix_append id place e id' place').subset h

end Changelog

/-! ## 4. Canonical changelogs -/

/-- A place that a canonical version can have. -/
def Place.Canonical : Place → Prop
  | .direct => True
  | .under name => Phrase name

theorem Version.Canonical.append {v : Version} (h : v.Canonical) {e : Entry} (he : e.Canonical) :
    {place : Place} → place.Canonical → (v.append e place).Canonical
  | .direct, _ => h.withEntries (List.forall_mem_append.mpr ⟨h.entries, by simpa using he⟩)
  | .under name, hn => by
      have hv := h.ensureSection hn
      refine hv.withSections ?_ ?_
      · refine forall_mem_updateFirst (fun s hs => hs.withEntries ?_) hv.sections
        exact List.forall_mem_append.mpr ⟨hs.entries, by simpa using he⟩
      · exact map_updateFirst (f := fun s : Section => { s with entries := s.entries ++ [e] })
          (fun _ => rfl) _

namespace Changelog.Canonical

variable {c : Changelog}

theorem ensureVersion (h : c.Canonical) {id : Text} (hid : Version.IsId id) :
    (c.ensureVersion id).Canonical := by
  unfold Changelog.ensureVersion
  split
  · exact h
  · rename_i hn
    have hnew : ∀ v ∈ c.versions, v.id ≠ id := fun v hm e =>
      hn (List.any_eq_true.mpr ⟨v, hm, beq_iff_eq.mpr e⟩)
    exact insertFresh hid h hnew

/-- **Entering a canonical entry in a canonical place keeps a changelog canonical.** -/
theorem append (h : c.Canonical) {id : Text} {place : Place} {e : Entry} (hid : Version.IsId id)
    (hp : place.Canonical) (he : e.Canonical) : (c.append id place e).2.Canonical := by
  unfold Changelog.append
  split
  · exact h
  · exact (h.ensureVersion hid).update (fun v hv => hv.append he hp)
      (fun v => v.append_id e place) id

end Changelog.Canonical

/-! ## 5. Merged changes -/

theorem startsFirm_escapeHtml {t : Text} (h : startsFirm t = true) :
    startsFirm (escapeHtml t) = true := by
  obtain ⟨c, rest, rfl, hc⟩ := startsFirm_iff.mp h
  refine startsFirm_append (t := escapeChar c) ?_ _
  unfold escapeChar
  split
  · decide
  split
  · decide
  split
  · decide
  · simp [hc]

theorem feed_not_mem_escapeHtml {t : Text} (h : '\n' ∉ t) : '\n' ∉ escapeHtml t := by
  intro hm
  obtain ⟨c, hc, hm⟩ := List.mem_flatMap.mp hm
  unfold escapeChar at hm
  split at hm
  · exact absurd hm (by decide)
  split at hm
  · exact absurd hm (by decide)
  split at hm
  · exact absurd hm (by decide)
  · exact h (List.mem_singleton.mp hm ▸ hc)

/-- The entry of a merged change is canonical when its title is text on one line. -/
theorem Entry.canonical_referring {title r : Text} (ht : startsFirm title = true)
    (hl : '\n' ∉ title) (hr : isReference r = true) :
    (Entry.referring (escapeHtml title) r).Canonical := by
  have hne : r.isEmpty = false := by simpa using isReference_ne_nil hr
  unfold Entry.referring
  rw [hne]
  exact ⟨startsFirm_escapeHtml ht, feed_not_mem_escapeHtml hl,
    (fun r' hr' => Option.mem_some.mp hr' ▸ hr), fun hn => nomatch hn⟩

theorem Place.canonical_ofSection {name : Text} (h : name = noSection ∨ Phrase name) :
    (Place.ofSection name).Canonical := by
  unfold Place.ofSection
  split
  · trivial
  · rename_i hn
    exact h.resolve_left hn

namespace Changelog

/-- **A file with a change entered holds the document with the change entered.** -/
theorem parse_addMerge (t : Text) {sectionName title r : Text}
    (hs : sectionName = noSection ∨ Phrase sectionName) (ht : startsFirm title = true)
    (hl : '\n' ∉ title) (hr : isReference r = true) :
    parse (addMerge t sectionName title r) = ((parse t).insertMerge sectionName title r).2 :=
  parse_render ((parse_canonical t).append Version.isId_head (Place.canonical_ofSection hs)
    (Entry.canonical_referring ht hl hr))

end Changelog

end MergeScribe
