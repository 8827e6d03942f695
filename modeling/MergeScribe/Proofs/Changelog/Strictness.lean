import MergeScribe.Proofs.Changelog.Contents

/-!
# What a careful reader objects to

A careful reader judges a line by the document that it holds so far and by its cursors. Here the
same is said of the lines before it (`Deviates`), and of a file as a whole (`Strict`). Main
statements: the faults of a reader are the deviations of the lines
(`Reader.Tracks.fault?_eq_some_iff`); a file is strict as long as no line that is added to it
deviates (`strict_concat`), so exactly a file without deviations is (`strict_iff`). Together:
`Changelog.parseStrict_exact`.
-/

namespace MergeScribe

open Text Outline

/-! ## 1. Deviations -/

/-- The fault of a line, by the lines before it. A version heading is the first of its id or a
duplicate; a change is compared with the entries at its address as they are by then, texts of
wrapped lines included. -/
inductive Deviates (before : List Line) : Line → Fault → Prop
  | text {content : Text} : Deviates before (.other content) (.unrecognized content)
  | earlySection {name : Text} (h : versionIds before = []) :
      Deviates before (.heading name) .beforeFirstVersion
  | earlyChange {e : Entry} (h : versionIds before = []) :
      Deviates before (.change e) .beforeFirstVersion
  | sameVersion {id : Text} {date : Option Text} (h : id ∈ versionIds before) :
      Deviates before (.version id date) (.duplicateVersion id)
  | lateHead {date : Option Text} (hfirst : Version.head ∉ versionIds before)
      (hlate : versionIds before ≠ []) :
      Deviates before (.version Version.head date) .headNotFirst
  | sameReference {a : Address} {e : Entry} {r : Text} (ha : address? before = some a)
      (he : e.reference = some r) (h : r ∈ (entriesAt before a).filterMap Entry.reference) :
      Deviates before (.change e) (.duplicateReference r)

/-- The lines before the first version heading. -/
def Outline.upToVersion (lines : List Line) : List Line :=
  lines.takeWhile fun line => line.version?.isNone

/-- **What a careful reader accepts.** No text but that of changes, nothing before the first version
heading, one heading for each version, `HEAD` only as the first of them, and no reference twice at
an address. -/
structure Strict (lines : List Line) : Prop where
  plain : ∀ content, .other content ∉ lines
  front : ∀ line ∈ upToVersion lines, line = .blank
  ids : (versionIds lines).Nodup
  headFirst : Version.head ∉ (versionIds lines).tail
  references : ∀ a, ((entriesAt lines a).filterMap Entry.reference).Nodup

/-! ## 2. The faults of a reader -/

theorem Entry.listed_iff {entries : List Entry} {r : Text} :
    Entry.listed entries (some r) = true ↔ r ∈ entries.filterMap Entry.reference := by
  rw [Entry.listed, List.any_eq_true, List.mem_filterMap]
  exact exists_congr fun e => and_congr_right fun _ => beq_iff_eq

namespace Reader

variable {r : Reader} {before : List Line} {line : Line} {fault : Fault}

theorem Tracks.position?_isSome (h : r.Tracks before) (id : Text) :
    (r.document.position? id).isSome = true ↔ id ∈ versionIds before := by
  rw [h.document, Changelog.grouped, Changelog.position?_ofParts, List.findIdx?_isSome, ← mem_ids]
  simp

theorem Tracks.isEmpty (h : r.Tracks before) :
    r.document.isEmpty = true ↔ versionIds before = [] := by
  have hids : ids before = [] ↔ versionIds before = [] := by
    simp only [List.eq_nil_iff_forall_not_mem, mem_ids]
  rw [h.document, Changelog.grouped, Changelog.isEmpty, Changelog.ofParts, List.isEmpty_iff,
    List.map_eq_nil_iff, hids]

theorem Tracks.versionAt_eq_none_iff (h : r.Tracks before) :
    r.versionAt = none ↔ versionIds before = [] := by
  rw [← address?_eq_none_iff]
  refine ⟨fun hnone => ?_, h.outside⟩
  cases ha : address? before with
  | none => rfl
  | some a =>
      obtain ⟨i, hi, -⟩ := h.inside ha
      rw [hnone] at hi
      cases hi

/-- **The faults of a reader are the deviations of the lines.** -/
theorem Tracks.fault?_eq_some_iff (h : r.Tracks before) :
    r.fault? line = some fault ↔ Deviates before line fault := by
  cases line with
  | version id date =>
      simp only [fault?, h.position?_isSome, h.isEmpty]
      constructor
      · intro hf
        split at hf
        · rename_i hold
          cases hf
          exact .sameVersion hold
        split at hf
        · rename_i hnew hhead
          obtain ⟨rfl, hlate⟩ := hhead
          cases hf
          exact .lateHead hnew hlate
        · cases hf
      · rintro (_ | _ | _ | hold | ⟨hnew, hlate⟩ | _)
        · rw [if_pos hold]
        · rw [if_neg hnew, if_pos ⟨rfl, hlate⟩]
  | heading name =>
      simp only [fault?, Option.isNone_iff_eq_none, h.versionAt_eq_none_iff]
      constructor
      · intro hf
        split at hf
        · rename_i hearly
          cases hf
          exact .earlySection hearly
        · cases hf
      · rintro (_ | hearly)
        rw [if_pos hearly]
  | change e =>
      cases ha : address? before with
      | none =>
          have hearly : versionIds before = [] := address?_eq_none_iff.mp ha
          simp only [fault?, h.outside ha, Option.some.injEq]
          constructor
          · rintro rfl
            exact .earlyChange hearly
          · rintro (_ | _ | _ | _ | _ | ⟨ha', _, _⟩)
            · rfl
            · rw [ha] at ha'
              cases ha'
      | some a =>
          have hlate : versionIds before ≠ [] := fun hn => by
            rw [address?_eq_none_iff.mpr hn] at ha
            cases ha
          obtain ⟨i, hi, hpoints⟩ := h.inside ha
          have hentries : r.document.entriesIn i r.sectionAt = entriesAt before a := by
            rw [h.document, Changelog.grouped, hpoints.entriesIn]
          constructor
          · intro hf
            cases hr : e.reference with
            | none =>
                simp only [fault?, hi, hr] at hf
                cases hf
            | some reference =>
                simp only [fault?, hi, hr, hentries, Entry.listed_iff] at hf
                split at hf
                · rename_i hlisted
                  cases hf
                  exact .sameReference ha hr hlisted
                · cases hf
          · rintro (_ | _ | hearly | _ | _ | @⟨a', _, reference, ha', hr, hlisted⟩)
            · exact absurd hearly hlate
            · obtain rfl := Option.some.inj (ha.symm.trans ha')
              simp only [fault?, hi, hr, hentries, Entry.listed_iff]
              rw [if_pos hlisted]
  | blank =>
      constructor
      · intro hf
        cases hf
      · rintro ⟨⟩
  | other content =>
      simp only [fault?, Option.some.injEq]
      constructor
      · rintro rfl
        exact .text
      · rintro ⟨⟩
        rfl

/-! ## 3. All faults -/

/-- The violations are the deviations of the lines, each with the number of its line. -/
theorem Tracks.mem_violations (h : r.Tracks before) {number n : Nat} {lines : List Line} :
    ⟨n, fault⟩ ∈ r.violations number lines ↔ ∃ o ∈ occurrencesAfter before lines,
      n + before.length = number + o.before.length ∧ Deviates o.before o.line fault := by
  induction lines generalizing r before number with
  | nil => simp [violations, occurrencesAfter]
  | cons line lines ih =>
      have hhere : (⟨n, fault⟩ : Violation) ∈ ((r.fault? line).map (Violation.mk number)).toList ↔
          n = number ∧ Deviates before line fault := by
        rw [← h.fault?_eq_some_iff]
        simp only [Option.mem_toList, Option.map_eq_some_iff, Violation.mk.injEq]
        grind
      rw [violations, List.mem_append, hhere, ih (h.read line), occurrencesAfter]
      simp only [List.mem_cons, exists_eq_or_imp, List.length_append, List.length_singleton]
      refine or_congr (by simp) (exists_congr fun o => and_congr_right fun _ => ?_)
      exact and_congr_left fun _ => by omega

theorem le_of_mem_violations {number : Nat} {lines : List Line} :
    ∀ v ∈ r.violations number lines, number ≤ v.line := by
  induction lines generalizing r number with
  | nil => exact fun v hv => nomatch hv
  | cons line lines ih =>
      intro v hv
      rcases List.mem_append.mp hv with hv | hv
      · obtain ⟨fault, -, rfl⟩ := Option.map_eq_some_iff.mp (Option.mem_toList.mp hv)
        exact Nat.le_refl number
      · exact Nat.le_of_succ_le (ih v hv)

/-- A line has at most one violation, and they come in the order of the lines. -/
theorem pairwise_violations (r : Reader) (number : Nat) (lines : List Line) :
    (r.violations number lines).Pairwise fun v w => v.line < w.line := by
  induction lines generalizing r number with
  | nil => exact List.Pairwise.nil
  | cons line lines ih =>
      refine List.pairwise_append.mpr ⟨?_, ih _ _, fun v hv w hw => ?_⟩
      · cases r.fault? line <;> simp
      · obtain ⟨fault, -, rfl⟩ := Option.map_eq_some_iff.mp (Option.mem_toList.mp hv)
        exact le_of_mem_violations w hw

end Reader

/-! ## 4. Strict files -/

section Strict

variable {lines : List Line} {line : Line}

theorem Outline.upToVersion_eq_self (h : versionIds lines = []) : upToVersion lines = lines := by
  refine List.takeWhile_eq_self_iff.mpr fun line hl => ?_
  have hnone : lines.filterMap Line.version? = [] := List.map_eq_nil_iff.mp h
  rw [List.filterMap_eq_nil_iff.mp hnone line hl]
  rfl

theorem Outline.upToVersion_concat : upToVersion (lines ++ [line]) =
    if versionIds lines = [] ∧ line.version? = none then lines ++ [line]
    else upToVersion lines := by
  by_cases h : versionIds lines = []
  · have hself := upToVersion_eq_self h
    rw [upToVersion] at hself ⊢
    rw [List.takeWhile_append, hself, if_pos rfl]
    cases hv : line.version? <;> simp [hv, h, upToVersion, hself]
  · have hshort : (lines.takeWhile fun line => line.version?.isNone).length ≠ lines.length := by
      intro hlength
      have hself := (List.takeWhile_prefix _).eq_of_length hlength
      refine h (List.map_eq_nil_iff.mpr (List.filterMap_eq_nil_iff.mpr fun line hl => ?_))
      exact Option.isNone_iff_eq_none.mp (List.takeWhile_eq_self_iff.mp hself line hl)
    rw [upToVersion, List.takeWhile_append, if_neg hshort, if_neg fun hc => h hc.1, upToVersion]

/-- There is still no other text unless the line is some. -/
theorem forall_other_not_mem_concat : (∀ content, .other content ∉ lines ++ [line]) ↔
    (∀ content, .other content ∉ lines) ∧ ∀ content, line ≠ .other content := by
  rw [← forall_and]
  refine forall_congr' fun content => ?_
  rw [List.mem_append, not_or, List.mem_singleton, eq_comm]

/-- The front stays blank unless the line is there itself and is not. -/
theorem forall_mem_upToVersion_concat :
    (∀ l ∈ upToVersion (lines ++ [line]), l = .blank) ↔ (∀ l ∈ upToVersion lines, l = .blank) ∧
      (versionIds lines = [] → line.version? = none → line = .blank) := by
  rw [upToVersion_concat]
  split
  · rename_i h
    rw [upToVersion_eq_self h.1, List.forall_mem_append, List.forall_mem_singleton]
    exact and_congr_right fun _ => ⟨fun e _ _ => e, fun e => e h.1 h.2⟩
  · rename_i h
    exact ⟨fun hb => ⟨hb, fun hn hv => absurd ⟨hn, hv⟩ h⟩, fun hb => hb.1⟩

theorem nodup_versionIds_concat : (versionIds (lines ++ [line])).Nodup ↔ (versionIds lines).Nodup ∧
    ∀ id date, line = .version id date → id ∉ versionIds lines := by
  rw [versionIds_concat]
  cases line with
  | version id date => simp [Line.version?, List.nodup_append]; grind
  | _ => simp [Line.version?]

theorem head_not_mem_tail_concat : Version.head ∉ (versionIds (lines ++ [line])).tail ↔
    Version.head ∉ (versionIds lines).tail ∧
      ∀ id date, line = .version id date → versionIds lines ≠ [] → id ≠ Version.head := by
  rw [versionIds_concat]
  cases line with
  | version id date => cases versionIds lines <;> simp [Line.version?, eq_comm]
  | _ => simp [Line.version?]

/-- One more entry keeps the references apart unless its own is there already. -/
theorem Entry.nodup_references_concat {entries : List Entry} {e : Entry} :
    ((entries ++ [e]).filterMap Entry.reference).Nodup ↔
      (entries.filterMap Entry.reference).Nodup ∧
      ∀ r, e.reference = some r → r ∉ entries.filterMap Entry.reference := by
  rw [List.filterMap_append, filterMap_singleton, List.nodup_append]
  cases he : e.reference with
  | none => simp
  | some r => simp; grind

theorem forall_nodup_update {entries : Address → List Entry} {a : Address} {e : Entry} :
    (∀ a', ((Function.update entries a (entries a ++ [e]) a').filterMap Entry.reference).Nodup) ↔
      (∀ a', ((entries a').filterMap Entry.reference).Nodup) ∧
      ∀ r, e.reference = some r → r ∉ (entries a).filterMap Entry.reference := by
  have hhere := @Entry.nodup_references_concat (entries a) e
  constructor
  · intro h
    have ha := h a
    rw [Function.update_self, hhere] at ha
    refine ⟨fun a' => ?_, ha.2⟩
    by_cases hne : a' = a
    · exact hne ▸ ha.1
    · have := h a'
      rwa [Function.update_of_ne hne] at this
  · rintro ⟨hold, hnew⟩ a'
    by_cases hne : a' = a
    · rw [hne, Function.update_self]
      exact hhere.mpr ⟨hold a, hnew⟩
    · rw [Function.update_of_ne hne]
      exact hold a'

/-- References stay apart unless the line is a change with one that is at its address already. -/
theorem forall_nodup_references_concat (ho : line.other? = none) :
    (∀ a, ((entriesAt (lines ++ [line]) a).filterMap Entry.reference).Nodup) ↔
      (∀ a, ((entriesAt lines a).filterMap Entry.reference).Nodup) ∧
      ∀ e a r, line = .change e → address? lines = some a → e.reference = some r →
        r ∉ (entriesAt lines a).filterMap Entry.reference := by
  cases line with
  | change e =>
      have hfilings : filings (lines ++ [.change e]) = filings lines ++ _ := filings_concat_change
      cases ha : address? lines with
      | none =>
          rw [ha] at hfilings
          rw [entriesAt_eq_of_filings (hfilings.trans (List.append_nil _))]
          simp
      | some a =>
          rw [ha] at hfilings
          rw [entriesAt_of_filings_concat hfilings]
          refine forall_nodup_update.trans (and_congr_right fun _ => ?_)
          constructor
          · rintro h e' a' r he' ha' hr
            cases he'
            cases ha'
            exact h r hr
          · exact fun h r hr => h e a r rfl rfl hr
  | other content => cases ho
  | version | heading | blank =>
      rw [entriesAt_eq_of_filings (filings_concat_of_not_change rfl rfl)]
      simp

theorem strict_nil : Strict [] where
  plain _ := List.not_mem_nil
  front := List.forall_mem_nil _
  ids := List.nodup_nil
  headFirst := List.not_mem_nil
  references _ := List.nodup_nil

/-- **A file stays strict as long as no line that is added deviates.** -/
theorem strict_concat :
    Strict (lines ++ [line]) ↔ Strict lines ∧ ∀ fault, ¬ Deviates lines line fault := by
  constructor
  · intro h
    obtain ⟨hplain, hline⟩ := forall_other_not_mem_concat.mp h.plain
    obtain ⟨hfront, hblank⟩ := forall_mem_upToVersion_concat.mp h.front
    obtain ⟨hids, hnew⟩ := nodup_versionIds_concat.mp h.ids
    obtain ⟨hhead, hlate⟩ := head_not_mem_tail_concat.mp h.headFirst
    have hother : line.other? = none := by
      cases line with
      | other content => exact absurd rfl (hline content)
      | _ => rfl
    obtain ⟨hreferences, happart⟩ := (forall_nodup_references_concat hother).mp h.references
    refine ⟨⟨hplain, hfront, hids, hhead, hreferences⟩, fun fault hd => ?_⟩
    cases hd with
    | text => exact hline _ rfl
    | earlySection hearly => exact nomatch hblank hearly rfl
    | earlyChange hearly => exact nomatch hblank hearly rfl
    | sameVersion hold => exact hnew _ _ rfl hold
    | lateHead _ hbefore => exact hlate _ _ rfl hbefore rfl
    | sameReference ha he hr => exact happart _ _ _ rfl ha he hr
  · rintro ⟨h, hd⟩
    have hother : line.other? = none := by
      cases line with
      | other content => exact absurd .text (hd _)
      | _ => rfl
    refine ⟨forall_other_not_mem_concat.mpr ⟨h.plain, fun content e => ?_⟩,
      forall_mem_upToVersion_concat.mpr ⟨h.front, fun hearly hv => ?_⟩,
      nodup_versionIds_concat.mpr ⟨h.ids, fun id date e hold => ?_⟩,
      head_not_mem_tail_concat.mpr ⟨h.headFirst, fun id date e hbefore hid => ?_⟩,
      (forall_nodup_references_concat hother).mpr ⟨h.references, fun e a r he ha hr hm => ?_⟩⟩
    · subst e
      cases hother
    · cases line with
      | version => cases hv
      | heading => exact absurd (.earlySection hearly) (hd _)
      | change => exact absurd (.earlyChange hearly) (hd _)
      | blank => rfl
      | other => cases hother
    · subst e
      exact hd _ (.sameVersion hold)
    · subst e hid
      by_cases hold : Version.head ∈ versionIds lines
      · exact hd _ (.sameVersion hold)
      · exact hd _ (.lateHead hold hbefore)
    · subst he
      exact hd _ (.sameReference ha hr hm)

/-- **Exactly a file without deviations is strict.** -/
theorem strict_iff : Strict lines ↔
    ∀ o ∈ occurrences lines, ∀ fault, ¬ Deviates o.before o.line fault := by
  induction lines using List.reverseRecOn with
  | nil => exact iff_of_true strict_nil (List.forall_mem_nil _)
  | append_singleton lines line ih =>
      rw [strict_concat, ih, occurrences_concat, List.forall_mem_append, List.forall_mem_map,
        List.forall_mem_singleton]

end Strict

/-! ## 5. Files -/

namespace Changelog

theorem mem_violations {t : Text} {n : Nat} {fault : Fault} : ⟨n, fault⟩ ∈ violations t ↔
    ∃ o ∈ occurrences (linesOf t), n = o.before.length + 1 ∧ Deviates o.before o.line fault := by
  rw [violations, Reader.tracks_start.mem_violations]
  refine exists_congr fun o => and_congr_right fun _ => and_congr_left fun _ => ?_
  rw [List.length_nil, Nat.add_zero, Nat.add_comm]

theorem violations_eq_nil_iff {t : Text} : violations t = [] ↔ Strict (linesOf t) := by
  rw [strict_iff, List.eq_nil_iff_forall_not_mem]
  constructor
  · intro h o ho fault hd
    exact h ⟨_, fault⟩ (mem_violations.mpr ⟨o, ho, rfl, hd⟩)
  · rintro h ⟨n, fault⟩ hv
    obtain ⟨o, ho, -, hd⟩ := mem_violations.mp hv
    exact h o ho fault hd

/-- Where a file is cut at a line, its lines by their forms are. -/
theorem linesOf_eq_append_cons {t : Text} {before after : List Line} {line : Line} :
    linesOf t = before ++ line :: after ↔ ∃ before' raw after',
      Text.lines t = before' ++ raw :: after' ∧ before'.map classify = before ∧
        classify raw = line ∧ after'.map classify = after := by
  unfold linesOf
  rw [List.map_eq_append_iff]
  constructor
  · rintro ⟨before', more, hcut, hbefore, hmore⟩
    obtain ⟨raw, after', rfl, hraw, hafter⟩ := List.map_eq_cons_iff.mp hmore
    exact ⟨before', raw, after', hcut, hbefore, hraw, hafter⟩
  · rintro ⟨before', raw, after', hcut, hbefore, hraw, hafter⟩
    have hmore := List.map_eq_cons_iff.mpr ⟨raw, after', rfl, hraw, hafter⟩
    exact ⟨before', raw :: after', hcut, hbefore, hmore⟩

/-- **A careful reader reports exactly the deviations.** They come in the order of the lines, at
most one for each; a line of a file is reported where it deviates from what is before it, and text
as it is without the spaces around it. A file is taken exactly if it is strict, and then it holds
what the lenient reader takes it for. -/
theorem parseStrict_exact (t : Text) :
    (violations t).Pairwise (fun v w => v.line < w.line) ∧
    (∀ n fault, ⟨n, fault⟩ ∈ violations t ↔
      ∃ before raw after, Text.lines t = before ++ raw :: after ∧ n = before.length + 1 ∧
        Deviates (before.map classify) (classify raw) fault) ∧
    (∀ raw content, classify raw = .other content → content = trim raw) ∧
    (∀ c, parseStrict t = .ok c ↔ Strict (linesOf t) ∧ c = parse t) ∧
    (∀ found, parseStrict t = .error found ↔ ¬ Strict (linesOf t) ∧ found = violations t) := by
  refine ⟨Reader.start.pairwise_violations 1 _, fun n fault => ?_,
    fun raw content => classify_other, fun c => ?_, fun found => ?_⟩
  · rw [mem_violations]
    constructor
    · rintro ⟨o, ho, rfl, hd⟩
      obtain ⟨before, raw, after, hcut, hbefore, hraw, -⟩ :=
        linesOf_eq_append_cons.mp (mem_occurrences.mp ho)
      rw [← hbefore, ← hraw] at hd
      refine ⟨before, raw, after, hcut, ?_, hd⟩
      rw [← hbefore, List.length_map]
    · rintro ⟨before, raw, after, hcut, rfl, hd⟩
      refine ⟨⟨before.map classify, classify raw, after.map classify⟩, mem_occurrences.mpr ?_, ?_,
        hd⟩
      · exact linesOf_eq_append_cons.mpr ⟨before, raw, after, hcut, rfl, rfl, rfl⟩
      · rw [List.length_map]
  · rw [← violations_eq_nil_iff, parseStrict]
    cases violations t <;> simp [eq_comm]
  · rw [← violations_eq_nil_iff, parseStrict]
    cases violations t <;> simp [eq_comm]

end Changelog

end MergeScribe
