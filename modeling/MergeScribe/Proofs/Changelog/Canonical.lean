import MergeScribe.Proofs.Changelog.Reference
import MergeScribe.Proofs.Changelog.VersionId

/-!
# Canonical changelogs

A changelog as a file can hold it: names and dates are phrases, versions and the sections of a
version have names of their own, `HEAD` comes first, and each summary can be told from its
reference. All of this can be decided. Main statement: wrapped text keeps an entry canonical
(`Entry.Canonical.extend`).
-/

namespace MergeScribe

open Text

/-! ## 1. The parts of a changelog -/

/-- The id of a version in a changelog: `HEAD`, or a released version as the grammar writes it. -/
def Version.IsId (id : Text) : Prop :=
  id = Version.head ∨ VersionId.Written id

/-- An entry that its line shows in full. With a reference the summary may end in spaces, since the
reference follows them; without one it must not end in what would be taken for a reference. -/
structure Entry.Canonical (e : Entry) : Prop where
  starts : startsFirm e.summary = true
  oneLine : '\n' ∉ e.summary
  reference : ∀ r ∈ e.reference, isReference r = true
  plain : e.reference = none → endsFirm e.summary = true ∧ ¬ EndsInReference e.summary

structure Section.Canonical (s : Section) : Prop where
  name : Phrase s.name
  entries : ∀ e ∈ s.entries, e.Canonical

structure Version.Canonical (v : Version) : Prop where
  id : Version.IsId v.id
  date : ∀ d ∈ v.date, Phrase d
  entries : ∀ e ∈ v.entries, e.Canonical
  sections : ∀ s ∈ v.sections, s.Canonical
  names : (v.sections.map Section.name).Nodup

/-- **A changelog that its file shows in full.** -/
structure Changelog.Canonical (c : Changelog) : Prop where
  versions : ∀ v ∈ c.versions, v.Canonical
  ids : (c.versions.map Version.id).Nodup
  headFirst : ∀ v ∈ c.versions.tail, v.id ≠ Version.head

/-! ## 2. Deciding -/

instance (id : Text) : Decidable (Version.IsId id) :=
  inferInstanceAs (Decidable (_ ∨ _))

instance (e : Entry) : Decidable e.Canonical :=
  decidable_of_iff (startsFirm e.summary = true ∧ '\n' ∉ e.summary ∧
      (∀ r ∈ e.reference, isReference r = true) ∧
      (e.reference = none → endsFirm e.summary = true ∧ ¬ EndsInReference e.summary))
    ⟨fun ⟨hs, hl, hr, hp⟩ => ⟨hs, hl, hr, hp⟩, fun h => ⟨h.starts, h.oneLine, h.reference, h.plain⟩⟩

instance (s : Section) : Decidable s.Canonical :=
  decidable_of_iff (Phrase s.name ∧ ∀ e ∈ s.entries, e.Canonical)
    ⟨fun ⟨hn, he⟩ => ⟨hn, he⟩, fun h => ⟨h.name, h.entries⟩⟩

instance (v : Version) : Decidable v.Canonical :=
  decidable_of_iff (Version.IsId v.id ∧ (∀ d ∈ v.date, Phrase d) ∧ (∀ e ∈ v.entries, e.Canonical) ∧
      (∀ s ∈ v.sections, s.Canonical) ∧ (v.sections.map Section.name).Nodup)
    ⟨fun ⟨hi, hd, he, hs, hn⟩ => ⟨hi, hd, he, hs, hn⟩,
      fun h => ⟨h.id, h.date, h.entries, h.sections, h.names⟩⟩

instance (c : Changelog) : Decidable c.Canonical :=
  decidable_of_iff ((∀ v ∈ c.versions, v.Canonical) ∧ (c.versions.map Version.id).Nodup ∧
      ∀ v ∈ c.versions.tail, v.id ≠ Version.head)
    ⟨fun ⟨hv, hi, hh⟩ => ⟨hv, hi, hh⟩, fun h => ⟨h.versions, h.ids, h.headFirst⟩⟩

/-- A summary may hold a reference that it does not end in, and one that nothing precedes. -/
example : Changelog.Canonical
    ⟨[⟨Version.head, none, [⟨"Fix (#1) twice", some "#2"⟩], []⟩,
      ⟨"v1.0.pre.rc1", some "May 2015", [], [⟨"Bug Fixes", [⟨"(#3)", none⟩]⟩]⟩]⟩ := by
  decide +kernel

/-! ## 3. Ids -/

theorem Version.isId_head : Version.IsId Version.head :=
  .inl rfl

/-- The id of a version is a single word. -/
theorem Version.IsId.not_isSpace {id : Text} (h : Version.IsId id) :
    ∀ c ∈ id, isSpace c = false := by
  rcases h with rfl | h
  · exact not_isSpace_of_all (by decide)
  · exact h.not_isSpace

theorem Version.IsId.ne_nil {id : Text} (h : Version.IsId id) : id ≠ [] := by
  rintro rfl
  rcases h with h | h
  · cases h
  · exact List.not_mem_nil h.dot_mem

/-! ## 4. Entries -/

/-- What a phrase stands for is an entry that its line shows in full. -/
theorem Entry.canonical_ofText {t : Text} (h : Phrase t) : (Entry.ofText t).Canonical := by
  rcases splitReference_cases t with ⟨before, r, e, hb, hr, ht⟩ | ⟨e, hn⟩
  · have hstart : startsFirm before = true := by
      obtain ⟨c, rest, rfl⟩ := List.exists_cons_of_ne_nil hb
      have := h.starts
      rw [ht] at this
      exact this
    have hline : '\n' ∉ before := fun hm => h.oneLine (by rw [ht]; exact List.mem_append_left _ hm)
    unfold Entry.ofText
    rw [e]
    exact ⟨hstart, hline, fun r' hr' => Option.mem_some.mp hr' ▸ hr, fun hn => nomatch hn⟩
  · unfold Entry.ofText
    rw [e]
    exact ⟨h.starts, h.oneLine, (fun r hr => nomatch hr), fun _ => ⟨h.ends, hn⟩⟩

/-- **Wrapped text keeps an entry canonical.** -/
theorem Entry.Canonical.extend {e : Entry} (h : e.Canonical) {t : Text} (ht : Phrase t) :
    (e.extend t).Canonical := by
  have hstart : startsFirm (e.summary ++ ' ' :: t) = true := startsFirm_append h.starts _
  have hline : '\n' ∉ e.summary ++ ' ' :: t := by
    intro hm
    rcases List.mem_append.mp hm with hm | hm
    · exact h.oneLine hm
    · exact ht.oneLine (List.mem_of_ne_of_mem (by decide) hm)
  unfold Entry.extend
  split
  · rename_i r hr
    refine ⟨hstart, hline, fun r' hr' => ?_, fun hn => nomatch hn⟩
    exact h.reference r' (hr ▸ hr')
  · exact Entry.canonical_ofText ⟨hstart, endsFirm_append (endsFirm_cons ht.ends ' ') _, hline⟩

end MergeScribe
