import MergeScribe.Proofs.Changelog.Editing
import MergeScribe.Proofs.Changelog.Forms
import MergeScribe.Proofs.Text.Lines

/-!
# What a reader builds

Whatever the lines, the document that is read from them is canonical. Main statements: one line
keeps the document canonical wherever the cursors are (`Reader.read_canonical`), so all lines do
(`Reader.readAll_canonical`), and so a file holds a canonical document (`Changelog.parse_canonical`).
-/

namespace MergeScribe

open Text

/-! ## 1. One line -/

namespace Reader

variable {r : Reader}

theorem ne_id_of_position?_eq_none {c : Changelog} {id : Text} (h : c.position? id = none) :
    ∀ w ∈ c.versions, w.id ≠ id := by
  intro w hw e
  have := List.findIdx?_eq_none_iff.mp h w hw
  rw [e, beq_self_eq_true] at this
  cases this

theorem enterVersion_canonical (h : r.document.Canonical) {id : Text} {date : Option Text}
    (hid : Version.IsId id) (hd : ∀ d ∈ date, Phrase d) :
    (r.enterVersion id date).document.Canonical := by
  unfold enterVersion
  split
  · exact h
  · rename_i hnew
    have hv := Version.Canonical.fresh hid hd
    have hne := ne_id_of_position?_eq_none hnew
    split
    · rename_i hhead
      exact h.cons hv hne (hhead ▸ hne)
    · rename_i hhead
      exact h.concat hv hne hhead

theorem enterSection_canonical (h : r.document.Canonical) {name : Text} (hn : Phrase name) :
    (r.enterSection name).document.Canonical := by
  unfold enterSection
  split
  · exact h
  · rename_i i _
    exact h.modifyVersion (fun v hv => hv.ensureSection hn) (fun v => v.ensureSection_id name) i

theorem addEntry_canonical (h : r.document.Canonical) {e : Entry} (he : e.Canonical) :
    (r.addEntry e).document.Canonical := by
  unfold addEntry
  split
  · exact h
  · rename_i i _
    refine h.modifyVersion (fun v hv => hv.modifyEntries (fun es hes => ?_) r.sectionAt)
      (fun v => v.modifyEntries_id _ _) i
    exact List.forall_mem_append.mpr ⟨hes, fun e' he' => List.mem_singleton.mp he' ▸ he⟩

theorem continueEntry_canonical (h : r.document.Canonical) {content : Text} (hc : Phrase content) :
    (r.continueEntry content).document.Canonical := by
  unfold continueEntry
  split
  · exact h
  · rename_i spot _
    refine h.modifyVersion (fun v hv => hv.modifyEntries (fun es hes => ?_) spot.sectionAt)
      (fun v => v.modifyEntries_id _ _) spot.version
    exact forall_mem_modify (fun e he => he.extend hc) hes spot.entry

/-- **One line keeps the document canonical**, wherever the cursors are. -/
theorem read_canonical (h : r.document.Canonical) {line : Line} (hl : line.Sound) :
    (r.read line).document.Canonical := by
  cases line with
  | version id date => exact enterVersion_canonical h hl.1 hl.2
  | heading name => exact enterSection_canonical h hl
  | change e => exact addEntry_canonical h hl
  | blank => exact h
  | other content => exact continueEntry_canonical h hl

/-! ## 2. All lines -/

theorem readAll_canonical {lines : List Line} (h : r.document.Canonical)
    (hl : ∀ line ∈ lines, line.Sound) : (r.readAll lines).document.Canonical := by
  induction lines generalizing r with
  | nil => exact h
  | cons line more ih =>
      obtain ⟨hline, hmore⟩ := List.forall_mem_cons.mp hl
      exact ih (read_canonical h hline) hmore

end Reader

/-! ## 3. Files -/

namespace Changelog

theorem canonical_empty : Changelog.empty.Canonical where
  versions := List.forall_mem_nil _
  ids := List.nodup_nil
  headFirst := List.forall_mem_nil _

theorem linesOf_sound {t : Text} : ∀ line ∈ linesOf t, line.Sound := by
  intro line h
  obtain ⟨l, hl, rfl⟩ := List.mem_map.mp h
  exact classify_sound (not_mem_of_mem_lines hl)

/-- **Whatever the file, the document it holds is canonical.** -/
theorem parse_canonical (t : Text) : (parse t).Canonical :=
  Reader.readAll_canonical (r := Reader.start) canonical_empty linesOf_sound

end Changelog

end MergeScribe
