import MergeScribe.Changelog.Render
import MergeScribe.Proofs.Changelog.Canonical

/-!
# The forms of lines, both ways

What a line can be taken for, and what the written lines are taken for. Main statements: whatever
the line, what it is taken for has canonical parts (`classify_sound`), and the three kinds of lines
that a changelog is written with are taken for what they were written from
(`classify_renderHeading`, `classify_sectionHeading`, `classify_render`).
-/

namespace MergeScribe

open Text

/-! ## 1. What follows a mark -/

/-- **Spaces are passed over**, and with them those that the text behind them starts with. -/
theorem afterSpaces?_append {gap : Text} (hne : gap ≠ []) (hb : isBlank gap = true) (t : Text) :
    afterSpaces? (gap ++ t) = some (trimStart t) := by
  obtain ⟨c, more, rfl⟩ := List.exists_cons_of_ne_nil hne
  have hall := List.all_eq_true.mp hb
  have hmore : isBlank more = true :=
    List.all_eq_true.mpr fun d hd => hall d (List.mem_cons_of_mem c hd)
  rw [List.cons_append, afterSpaces?, if_pos (hall c List.mem_cons_self),
    trimStart_append_of_isBlank hmore]

theorem afterSpaces?_of_startsFirm {t : Text} (h : startsFirm t = true) :
    afterSpaces? (' ' :: t) = some t := by
  have hspace := @afterSpaces?_append [' '] (List.cons_ne_nil _ _) (by decide) t
  rwa [trimStart_of_startsFirm h] at hspace

theorem exists_gap_of_afterSpaces? {t rest : Text} (h : afterSpaces? t = some rest) :
    ∃ gap : Text, gap ≠ [] ∧ isBlank gap = true ∧ t = gap ++ rest := by
  cases t with
  | nil => cases h
  | cons c more =>
      rw [afterSpaces?] at h
      split at h
      · rename_i hc
        refine ⟨c :: more.takeWhile isSpace, List.cons_ne_nil _ _, ?_, ?_⟩
        · rw [isBlank, List.all_cons, hc, List.all_takeWhile]
          rfl
        · rw [← Option.some.inj h, trimStart, List.cons_append, List.takeWhile_append_dropWhile]
      · cases h

theorem afterSpaces?_eq_some {t rest : Text} (h : afterSpaces? t = some rest) :
    rest <:+ t ∧ (rest ≠ [] → startsFirm rest = true) := by
  cases t with
  | nil => cases h
  | cons c t =>
      rw [afterSpaces?] at h
      split at h
      · rw [← Option.some.inj h]
        exact ⟨(trimStart_isSuffix t).trans (List.suffix_cons c t), startsFirm_trimStart⟩
      · cases h

/-- **A phrase after a mark and a space is read back.** -/
theorem content?_phrase {t : Text} (h : Phrase t) (mark : Text) :
    content? mark (mark ++ ' ' :: t) = some t := by
  have hm : after? mark (mark ++ ' ' :: t) = some (' ' :: t) := after?_eq_some_iff.mpr rfl
  have hne : t.isEmpty = false :=
    Bool.eq_false_iff.mpr fun e => ne_nil_of_startsFirm h.starts (List.isEmpty_iff.mp e)
  rw [content?, hm, Option.bind_some, afterSpaces?_of_startsFirm h.starts, Option.bind_some, hne,
    trimEnd_of_endsFirm h.ends]
  rfl

/-- **What is read after a mark is a phrase.** -/
theorem phrase_of_content? {mark line t : Text} (hl : '\n' ∉ line)
    (h : content? mark line = some t) : Phrase t := by
  obtain ⟨rest, hr, h⟩ := Option.bind_eq_some_iff.mp h
  obtain ⟨after, ha, hs⟩ := Option.bind_eq_some_iff.mp hr
  obtain ⟨hsuffix, hstart⟩ := afterSpaces?_eq_some hs
  have hline : '\n' ∉ rest := fun hm => hl (by
    rw [after?_eq_some_iff.mp ha]
    exact List.mem_append_right _ (hsuffix.subset hm))
  split at h
  · cases h
  · rename_i hne
    rw [← Option.some.inj h]
    exact phrase_trimEnd (hstart fun e => hne (List.isEmpty_iff.mpr e)) hline

/-! ## 2. Version headings -/

theorem isId_of_versionId? {word id : Text} (h : versionId? word = some id) : Version.IsId id := by
  unfold versionId? at h
  split at h
  · exact .inl (Option.some.inj h).symm
  · split at h
    · rename_i hr
      rw [← Option.some.inj h]
      exact .inr (VersionId.isReleased_iff.mp hr)
    · cases h

/-- A word stands for an id if it is `HEAD` in any case, or the id itself. -/
theorem versionId?_eq_some {word id : Text} (h : versionId? word = some id) :
    word = id ∨ lowerAscii word = "head".toList ∧ id = Version.head := by
  unfold versionId? at h
  split at h
  · rename_i hw
    exact .inr ⟨beq_iff_eq.mp hw, (Option.some.inj h).symm⟩
  · split at h
    · exact .inl (Option.some.inj h)
    · cases h

/-- An id is read as itself: the dots of a released version tell it from `HEAD` in any case. -/
theorem versionId?_of_isId {id : Text} (h : Version.IsId id) : versionId? id = some id := by
  rcases h with rfl | h
  · decide
  · have hne : (lowerAscii id == "head".toList) = false := by
      refine beq_eq_false_iff_ne.mpr fun e => ?_
      have hm : Char.toLower '.' ∈ lowerAscii id := List.mem_map_of_mem h.dot_mem
      rw [e] at hm
      exact absurd hm (by decide)
    rw [versionId?, hne, VersionId.isReleased_iff.mpr h]
    rfl

theorem phrase_of_headingDate? {rest : Text} {date : Option Text} (hl : '\n' ∉ rest)
    (h : headingDate? rest = some date) : ∀ d ∈ date, Phrase d := by
  unfold headingDate? at h
  split at h
  · rw [← Option.some.inj h]
    exact fun d hd => nomatch hd
  · obtain ⟨d, hd, rfl⟩ := Option.map_eq_some_iff.mp h
    obtain ⟨after, ha, hc⟩ := Option.bind_eq_some_iff.mp hd
    have hline : '\n' ∉ after := fun hm => hl ((afterSpaces?_eq_some ha).1.subset hm)
    intro d' hd'
    rw [← Option.mem_some.mp hd']
    exact phrase_of_content? hline hc

/-- What a version heading writes after the id. -/
def dateTail : Option Text → Text
  | none => []
  | some date => " / " ++ date

theorem renderHeading_eq (v : Version) :
    v.renderHeading = "##" ++ ' ' :: (v.id ++ dateTail v.date) := by
  unfold Version.renderHeading
  cases v.date with
  | none => simp [dateTail]
  | some date => simp [dateTail]

theorem headingDate?_dateTail {date : Option Text} (h : ∀ d ∈ date, Phrase d) :
    headingDate? (dateTail date) = some date := by
  cases date with
  | none => rfl
  | some d =>
      have hb : isBlank (" / " ++ d) = false := by simp [isBlank, show isSpace '/' = false by decide]
      have hstart : startsFirm ('/' :: ' ' :: d) = true := by
        rw [startsFirm_cons]
        decide
      have ha : afterSpaces? (" / " ++ d) = some ('/' :: ' ' :: d) :=
        afterSpaces?_of_startsFirm hstart
      have hc : content? "/" ('/' :: ' ' :: d) = some d := content?_phrase (h d rfl) "/"
      show headingDate? (" / " ++ d) = some (some d)
      rw [headingDate?, hb, ha, Option.bind_some, hc]
      rfl

/-- The id ends where the first space stands. -/
theorem span_id {id : Text} (h : Version.IsId id) (date : Option Text) :
    (id ++ dateTail date).takeWhile (fun c => !isSpace c) = id ∧
      (id ++ dateTail date).dropWhile (fun c => !isSpace c) = dateTail date := by
  refine span_word h.not_isSpace ?_
  cases date with
  | none => rfl
  | some d => exact @startsFirm_append_of_isBlank [' '] (List.cons_ne_nil _ _) (by decide) _

theorem startsFirm_of_isId {id : Text} (h : Version.IsId id) : startsFirm id = true := by
  obtain ⟨c, rest, rfl⟩ := List.exists_cons_of_ne_nil h.ne_nil
  simp [h.not_isSpace c List.mem_cons_self]

/-- **A version heading is read back.** -/
theorem classify_renderHeading {v : Version} (hid : Version.IsId v.id) (hd : ∀ d ∈ v.date, Phrase d) :
    classify v.renderHeading = .version v.id v.date := by
  have hstart : startsFirm (v.id ++ dateTail v.date) = true :=
    startsFirm_append (startsFirm_of_isId hid) _
  have hafter : after? "##" v.renderHeading = some (' ' :: (v.id ++ dateTail v.date)) := by
    rw [renderHeading_eq]
    exact after?_eq_some_iff.mpr rfl
  have h : versionHeading? v.renderHeading = some (v.id, v.date) := by
    rw [versionHeading?, hafter, Option.bind_some, afterSpaces?_of_startsFirm hstart,
      Option.bind_some, (span_id hid v.date).1, (span_id hid v.date).2, versionId?_of_isId hid,
      Option.bind_some, headingDate?_dateTail hd]
    rfl
  rw [classify, h]

/-! ## 3. Section headings, changes, blank lines -/

theorem classify_nil : classify [] = .blank := by decide

/-- **A section heading is read back.** -/
theorem classify_sectionHeading {name : Text} (h : Phrase name) :
    classify ("### " ++ name) = .heading name := by
  have hv : versionHeading? ("### " ++ name) = none := by
    have ha : after? "##" ("### " ++ name) = some ('#' :: ' ' :: name) :=
      after?_eq_some_iff.mpr rfl
    rw [versionHeading?, ha]
    rfl
  have hs : sectionHeading? ("### " ++ name) = some name := content?_phrase h "###"
  rw [classify, hv, hs]

/-- What an entry writes after its asterisk. -/
def entryText (e : Entry) : Text :=
  match e.reference with
  | some r => e.summary ++ (" (" ++ r ++ ")")
  | none => e.summary

theorem Entry.render_eq (e : Entry) : e.render = ' ' :: ' ' :: '*' :: ' ' :: entryText e := by
  unfold Entry.render entryText
  cases e.reference with
  | none => rfl
  | some r => simp

theorem phrase_entryText {e : Entry} (h : e.Canonical) : Phrase (entryText e) := by
  unfold entryText
  split
  · rename_i r hr
    refine ⟨startsFirm_append h.starts _, ?_, ?_⟩
    · rw [← List.append_assoc]
      exact endsFirm_append (u := ")") (by decide) _
    · have hline := feed_not_mem_of_isReference (h.reference r hr)
      simp [h.oneLine, hline]
  · rename_i hr
    exact ⟨h.starts, (h.plain hr).1, h.oneLine⟩

theorem ofText_entryText {e : Entry} (h : e.Canonical) : Entry.ofText (entryText e) = e := by
  obtain ⟨summary, reference⟩ := e
  cases reference with
  | some r =>
      have e := splitReference_append (ne_nil_of_startsFirm h.starts) (h.reference r rfl)
      show Entry.ofText (summary ++ (" (" ++ r ++ ")")) = ⟨summary, some r⟩
      rw [Entry.ofText, e]
  | none =>
      have e := splitReference_of_not (h.plain rfl).2
      show Entry.ofText summary = ⟨summary, none⟩
      rw [Entry.ofText, e]

/-- A text is what the entry writes that it stands for. -/
theorem entryText_ofText (t : Text) : entryText (Entry.ofText t) = t := by
  unfold Entry.ofText entryText
  rcases splitReference_cases t with ⟨before, r, e, -, -, ht⟩ | ⟨e, -⟩
  · rw [e, ht]
  · rw [e]

/-- The line of an entry is taken for a change; spaces in front of what it writes are passed over. -/
theorem classify_render_of_endsFirm {e : Entry} (h : endsFirm (entryText e) = true) :
    classify e.render = .change (Entry.ofText (trimStart (entryText e))) := by
  have hv : versionHeading? e.render = none := by
    rw [Entry.render_eq]
    rfl
  have hs : sectionHeading? e.render = none := by
    rw [Entry.render_eq]
    rfl
  have ht : trimStart e.render = "*" ++ ' ' :: entryText e := by
    have h1 : isSpace ' ' = true := by decide
    have h2 : isSpace '*' = false := by decide
    rw [Entry.render_eq]
    simp [trimStart, h1, h2]
  have hend := endsFirm_trimStart h
  have hne : (trimStart (entryText e)).isEmpty = false := by
    cases he : trimStart (entryText e) with
    | nil =>
        rw [he] at hend
        cases hend
    | cons c rest => rfl
  have hc : changeText? e.render = some (trimStart (entryText e)) := by
    have hm : after? "*" ("*" ++ ' ' :: entryText e) = some (' ' :: entryText e) :=
      after?_eq_some_iff.mpr rfl
    have hspace : afterSpaces? (' ' :: entryText e) = some (trimStart (entryText e)) := rfl
    rw [changeText?, ht, content?, hm, Option.bind_some, hspace, Option.bind_some, hne,
      trimEnd_of_endsFirm hend]
    rfl
  rw [classify, hv, hs, hc]

/-- **The line of an entry is read back.** -/
theorem classify_render {e : Entry} (h : e.Canonical) : classify e.render = .change e := by
  have ht := phrase_entryText h
  rw [classify_render_of_endsFirm ht.ends, trimStart_of_startsFirm ht.starts, ofText_entryText h]

/-! ## 4. Any line -/

/-- What a line is taken for, if the parts are canonical. -/
def Line.Sound : Line → Prop
  | .version id date => Version.IsId id ∧ ∀ d ∈ date, Phrase d
  | .heading name => Phrase name
  | .change e => e.Canonical
  | .blank => True
  | .other content => Phrase content

theorem sound_of_versionHeading? {line id : Text} {date : Option Text} (hl : '\n' ∉ line)
    (h : versionHeading? line = some (id, date)) : Version.IsId id ∧ ∀ d ∈ date, Phrase d := by
  obtain ⟨rest, hr, h⟩ := Option.bind_eq_some_iff.mp h
  obtain ⟨after, ha, hs⟩ := Option.bind_eq_some_iff.mp hr
  obtain ⟨id', hid, h⟩ := Option.bind_eq_some_iff.mp h
  obtain ⟨date', hd, e⟩ := Option.map_eq_some_iff.mp h
  obtain ⟨rfl, rfl⟩ := Prod.mk.inj e
  have hline : '\n' ∉ rest.dropWhile fun c => !isSpace c := fun hm => hl (by
    rw [after?_eq_some_iff.mp ha]
    exact List.mem_append_right _
      ((afterSpaces?_eq_some hs).1.subset ((List.dropWhile_suffix _).subset hm)))
  exact ⟨isId_of_versionId? hid, phrase_of_headingDate? hline hd⟩

/-- **Whatever the line, what it is taken for has canonical parts.** -/
theorem classify_sound {line : Text} (hl : '\n' ∉ line) : (classify line).Sound := by
  have hstart : '\n' ∉ trimStart line := fun hm => hl ((trimStart_isSuffix line).subset hm)
  unfold classify
  split
  · rename_i id date h
    exact sound_of_versionHeading? hl h
  · split
    · rename_i name h
      exact phrase_of_content? hl h
    · split
      · rename_i text h
        exact Entry.canonical_ofText (phrase_of_content? hstart h)
      · split
        · exact trivial
        · rename_i hb
          have hne : trimStart line ≠ [] := by
            intro e
            exact hb (trimStart_eq_nil_iff.mp e)
          exact phrase_trimEnd (startsFirm_trimStart hne) hstart

end MergeScribe
