import MergeScribe.Proofs.Changelog.Forms

/-!
# What heads a version

A version heading said without its recogniser: two hashes and spaces, a word that stands for an id,
and then nothing but spaces, or a slash between spaces and a date. Main statement: a line is taken
for the heading of a version exactly when it is written like this (`classify_eq_version_iff`).
-/

namespace MergeScribe

open Text

/-! ## 1. The grammar -/

/-- What follows the id in a version heading, and the date that it gives: spaces, or a slash between
spaces and a date, which is trimmed. -/
inductive HeadingTail : Text → Option Text → Prop
  | undated {tail : Text} (hb : isBlank tail = true) : HeadingTail tail none
  | dated {gap gap' date : Text} (hne : gap ≠ []) (hb : isBlank gap = true) (hne' : gap' ≠ [])
      (hb' : isBlank gap' = true) (hd : isBlank date = false) :
      HeadingTail (gap ++ '/' :: (gap' ++ date)) (some (trim date))

/-- A word that stands for an id. `HEAD` may be in any case. -/
def StandsFor (word id : Text) : Prop :=
  word = id ∨ lowerAscii word = "head".toList ∧ id = Version.head

/-- A line that heads the version of an id, and gives it a date or none. -/
def Heads (line id : Text) (date : Option Text) : Prop :=
  Version.IsId id ∧ ∃ gap word tail : Text, gap ≠ [] ∧ isBlank gap = true ∧ StandsFor word id ∧
    HeadingTail tail date ∧ line = "##" ++ (gap ++ (word ++ tail))

/-! ## 2. Parts of a heading -/

/-- No space has a lower case of its own. -/
theorem toLower_of_isSpace {c : Char} (h : isSpace c = true) : c.toLower = c := by
  have hd : ∀ r ∈ spaceRanges, ∀ o ∈ [(0x41, 0x5A)], r.2 < o.1 ∨ o.2 < r.1 := by decide
  have hother : ¬ (c.val ≥ 'A'.val ∧ c.val ≤ 'Z'.val) := fun hc => by
    have hupper : inRanges [(0x41, 0x5A)] c = true := inRanges_of_mem (List.mem_singleton_self _)
      (UInt32.le_iff_toNat_le.mp hc.1) (UInt32.le_iff_toNat_le.mp hc.2)
    rw [inRanges_eq_false_of_disjoint hd h] at hupper
    cases hupper
  exact dif_neg hother

/-- What stands for an id is a word, which is read as that id. -/
theorem StandsFor.versionId? {word id : Text} (h : StandsFor word id) (hid : Version.IsId id) :
    MergeScribe.versionId? word = some id ∧ word ≠ [] ∧ ∀ c ∈ word, isSpace c = false := by
  rcases h with rfl | ⟨hword, rfl⟩
  · exact ⟨versionId?_of_isId hid, hid.ne_nil, hid.not_isSpace⟩
  · refine ⟨if_pos (beq_iff_eq.mpr hword), fun hnil => ?_,
      fun c hc => Bool.eq_false_iff.mpr fun hs => ?_⟩
    · rw [hnil] at hword
      cases hword
    · have hm : c ∈ lowerAscii word := toLower_of_isSpace hs ▸ List.mem_map_of_mem hc
      rw [hword] at hm
      have hfirm : ∀ d ∈ "head".toList, isSpace d = false := not_isSpace_of_all (by decide)
      rw [hfirm c hm] at hs
      cases hs

theorem HeadingTail.startsFirm_eq_false {tail : Text} {date : Option Text}
    (h : HeadingTail tail date) : startsFirm tail = false := by
  cases h with
  | undated hb =>
      exact Bool.eq_false_iff.mpr fun hs => by
        rw [isBlank_of_startsFirm hs] at hb
        cases hb
  | dated hne hb hne' hb' hd => exact startsFirm_append_of_isBlank hne hb _

/-- **What is read behind the id is what the grammar lets stand there.** -/
theorem headingDate?_eq_some_iff {tail : Text} {date : Option Text} :
    headingDate? tail = some date ↔ HeadingTail tail date := by
  constructor
  · intro h
    unfold headingDate? at h
    split at h
    · rename_i hb
      cases h
      exact .undated hb
    · obtain ⟨d, hd, rfl⟩ := Option.map_eq_some_iff.mp h
      obtain ⟨slashed, hslashed, hcontent⟩ := Option.bind_eq_some_iff.mp hd
      obtain ⟨rest, hrest, htrim⟩ := Option.bind_eq_some_iff.mp hcontent
      obtain ⟨after, hafter, hspaces⟩ := Option.bind_eq_some_iff.mp hrest
      obtain ⟨gap, hne, hb, rfl⟩ := exists_gap_of_afterSpaces? hslashed
      obtain ⟨gap', hne', hb', rfl⟩ := exists_gap_of_afterSpaces? hspaces
      obtain rfl := after?_eq_some_iff.mp hafter
      split at htrim
      · cases htrim
      · rename_i hrestne
        have hfirm : startsFirm rest = true :=
          (afterSpaces?_eq_some hspaces).2 fun e => hrestne (List.isEmpty_iff.mpr e)
        have hdate : trimEnd rest = trim rest := by rw [trim, trimStart_of_startsFirm hfirm]
        rw [← Option.some.inj htrim, hdate]
        exact .dated hne hb hne' hb' (isBlank_of_startsFirm hfirm)
  · rintro (hb | ⟨hne, hb, hne', hb', hd⟩)
    · exact if_pos hb
    · rename_i gap gap' date
      have hslash : isBlank (gap ++ '/' :: (gap' ++ date)) = false := by
        simp [isBlank, show isSpace '/' = false by decide]
      have hstart : trimStart ('/' :: (gap' ++ date)) = '/' :: (gap' ++ date) :=
        trimStart_of_startsFirm (by simp [show isSpace '/' = false by decide])
      have hrest : (trimStart date).isEmpty = false := by
        refine Bool.eq_false_iff.mpr fun hnil => ?_
        rw [trimStart_eq_nil_iff.mp (List.isEmpty_iff.mp hnil)] at hd
        cases hd
      have hcontent : content? "/" ('/' :: (gap' ++ date)) = some (trim date) := by
        have hafter : after? "/" ('/' :: (gap' ++ date)) = some (gap' ++ date) :=
          after?_eq_some_iff.mpr rfl
        rw [content?, hafter, Option.bind_some, afterSpaces?_append hne' hb', Option.bind_some,
          hrest]
        rfl
      rw [headingDate?, hslash, afterSpaces?_append hne hb, hstart, Option.bind_some, hcontent]
      rfl

/-! ## 3. Headings -/

theorem versionHeading?_eq_some_iff {line id : Text} {date : Option Text} :
    versionHeading? line = some (id, date) ↔ Heads line id date := by
  constructor
  · intro h
    obtain ⟨rest, hr, h⟩ := Option.bind_eq_some_iff.mp h
    obtain ⟨after, ha, hs⟩ := Option.bind_eq_some_iff.mp hr
    obtain ⟨id', hid, h⟩ := Option.bind_eq_some_iff.mp h
    obtain ⟨date', hd, e⟩ := Option.map_eq_some_iff.mp h
    obtain ⟨rfl, rfl⟩ := Prod.mk.inj e
    obtain ⟨gap, hne, hb, rfl⟩ := exists_gap_of_afterSpaces? hs
    refine ⟨isId_of_versionId? hid, gap, rest.takeWhile fun c => !isSpace c,
      rest.dropWhile fun c => !isSpace c, hne, hb, versionId?_eq_some hid,
      headingDate?_eq_some_iff.mp hd, ?_⟩
    rw [List.takeWhile_append_dropWhile]
    exact after?_eq_some_iff.mp ha
  · rintro ⟨hid, gap, word, tail, hne, hb, hword, htail, rfl⟩
    obtain ⟨hread, hwordne, hfirm⟩ := hword.versionId? hid
    have hstart : startsFirm (word ++ tail) = true :=
      startsFirm_append (phrase_of_not_isSpace hwordne hfirm).starts tail
    obtain ⟨htake, hdrop⟩ := span_word hfirm htail.startsFirm_eq_false
    have hafter : after? "##" ("##" ++ (gap ++ (word ++ tail))) = some (gap ++ (word ++ tail)) :=
      after?_eq_some_iff.mpr rfl
    rw [versionHeading?, hafter, Option.bind_some, afterSpaces?_append hne hb,
      trimStart_of_startsFirm hstart, Option.bind_some, htake, hdrop, hread, Option.bind_some,
      headingDate?_eq_some_iff.mpr htail]
    rfl

/-- **A line is taken for the heading of a version exactly when it heads that version.** -/
theorem classify_eq_version_iff {line id : Text} {date : Option Text} :
    classify line = .version id date ↔ Heads line id date := by
  rw [← versionHeading?_eq_some_iff]
  unfold classify
  constructor
  · intro h
    split at h
    · rename_i id' date' hv
      cases h
      exact hv
    · split at h
      · cases h
      · split at h
        · cases h
        · split at h <;> cases h
  · intro h
    rw [h]

/-! ## 4. Headings with single spaces -/

/-- The heading of a version with single spaces, and with a date or without. -/
def PlainHeading (line id : Text) : Prop :=
  line = "## " ++ id ∨ ∃ date, isBlank date = false ∧ line = "## " ++ id ++ " / " ++ date

theorem PlainHeading.heads {line id : Text} (h : PlainHeading line id) (hid : Version.IsId id) :
    ∃ date, Heads line id date := by
  have hne : [' '] ≠ [] := List.cons_ne_nil _ _
  have hb : isBlank [' '] = true := by decide
  rcases h with rfl | ⟨date, hd, rfl⟩
  · refine ⟨none, hid, [' '], id, [], hne, hb, .inl rfl, .undated rfl, ?_⟩
    rw [List.append_nil]
    rfl
  · refine ⟨some (trim date), hid, [' '], id, [' '] ++ '/' :: ([' '] ++ date), hne, hb, .inl rfl,
      .dated hne hb hne hb hd, ?_⟩
    exact List.append_assoc ..

end MergeScribe
