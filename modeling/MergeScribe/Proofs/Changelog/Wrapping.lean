import MergeScribe.Proofs.Changelog.Blocks
import MergeScribe.Proofs.Changelog.Body
import MergeScribe.Proofs.Changelog.Strictness

/-!
# Wrapped changes

The text of a change may go on over several lines, and where it is wrapped makes no difference. Main
statements: an entry that is put together piece by piece is the one that the whole text stands for,
as long as no earlier part of it ends in a reference (`Entry.foldl_extend_ofText`); a change and the
text joined to it leave a reader where the whole change would have (`Reader.readAll_wrapped`), also
in front of the first version heading, where both are passed over; so a file in which a change is
wrapped holds the document that it holds when the change is on one line (`Changelog.parse_wrapped`).
-/

namespace MergeScribe

open Text Outline

/-! ## 1. The text of a change -/

/-- **Put together piece by piece, a text stands for the entry that it stands for as a whole**,
unless it ends in a reference before it is whole. -/
theorem Entry.foldl_extend_ofText : {texts : List Text} → {t : Text} →
    (∀ early, early <+: texts → early ≠ texts → ¬ EndsInReference (joined " " (t :: early))) →
      texts.foldl Entry.extend (Entry.ofText t) = Entry.ofText (joined " " (t :: texts))
  | [], t, _ => by rw [List.foldl_nil, joined_singleton]
  | c :: texts, t, h => by
      have hplain : ¬ EndsInReference t := by
        have hfirst := h [] List.nil_prefix (List.cons_ne_nil c texts).symm
        rwa [joined_singleton] at hfirst
      have hstep : (Entry.ofText t).extend c = Entry.ofText (t ++ ' ' :: c) := by
        rw [Entry.ofText, splitReference_of_not hplain]
        rfl
      rw [List.foldl_cons, hstep, foldl_extend_ofText, joined_extended]
      intro early hpre hne
      rw [joined_extended]
      exact h (c :: early) ((List.prefix_cons_inj c).mpr hpre) fun e => hne (List.cons.inj e).2

/-! ## 2. Changing entries in a place -/

theorem modify_congr {α : Type} {f g : α → α} {l : List α} {i : Nat}
    (h : ∀ a, l[i]? = some a → f a = g a) : l.modify i f = l.modify i g := by
  refine List.ext_getElem? fun j => ?_
  rw [List.getElem?_modify, List.getElem?_modify]
  by_cases hj : i = j
  · subst hj
    cases ha : l[i]? with
    | none => rfl
    | some a => simp [h a ha]
  · simp [hj]

/-- What is done to the entries in a place depends on what it makes of those that are there. -/
theorem Version.modifyEntries_congr {v : Version} {sectionAt : Option Nat}
    {f g : List Entry → List Entry} (h : f (v.entriesIn sectionAt) = g (v.entriesIn sectionAt)) :
    v.modifyEntries sectionAt f = v.modifyEntries sectionAt g := by
  cases sectionAt with
  | none => exact congrArg (fun entries => { v with entries := entries }) h
  | some j =>
      refine congrArg (fun sections => { v with sections := sections })
        (modify_congr fun s hs => ?_)
      have hentries : v.entriesIn (some j) = s.entries := by simp [Version.entriesIn, hs]
      rw [← hentries, h]

theorem Changelog.modifyEntries_congr {c : Changelog} {i : Nat} {sectionAt : Option Nat}
    {f g : List Entry → List Entry}
    (h : f (c.entriesIn i sectionAt) = g (c.entriesIn i sectionAt)) :
    c.modifyVersion i (fun v => v.modifyEntries sectionAt f) =
      c.modifyVersion i fun v => v.modifyEntries sectionAt g := by
  refine congrArg Changelog.mk (modify_congr fun v hv => Version.modifyEntries_congr ?_)
  have hentries : c.entriesIn i sectionAt = v.entriesIn sectionAt := by
    simp [Changelog.entriesIn, hv]
  rw [← hentries, h]

/-- The entry that was entered last in a place can be changed before it is entered. -/
theorem Changelog.modifyEntry_concat (c : Changelog) (i : Nat) (sectionAt : Option Nat) (e : Entry)
    (f : Entry → Entry) :
    (c.modifyVersion i fun v => v.modifyEntries sectionAt fun entries => entries ++ [e]).modifyEntry
        ⟨i, sectionAt, (c.entriesIn i sectionAt).length⟩ f =
      c.modifyVersion i fun v => v.modifyEntries sectionAt fun entries => entries ++ [f e] := by
  unfold Changelog.modifyEntry
  calc
    _ = c.modifyVersion i fun v => v.modifyEntries sectionAt fun entries =>
          (entries ++ [e]).modify (c.entriesIn i sectionAt).length f := by
        unfold Changelog.modifyVersion
        rw [List.modify_modify_eq]
        refine congrArg Changelog.mk (congrArg (c.versions.modify i) (funext fun v => ?_))
        exact Reader.modifyEntries_modifyEntries v sectionAt _ _
    _ = _ := modifyEntries_congr (modify_length_concat f e _)

/-! ## 3. Reading a change and the text joined to it -/

namespace Reader

variable {r : Reader}

/-- There is no latest entry in front of the first version heading. -/
theorem Tracks.latest_eq_none {before : List Line} (h : r.Tracks before)
    (hv : r.versionAt = none) : r.latest = none := by
  refine h.unfiled (List.eq_nil_iff_forall_not_mem.mpr fun f hf => ?_)
  obtain ⟨earlier, after, rfl, ha⟩ := exists_address?_of_mem_filings hf
  have hids := h.versionAt_eq_none_iff.mp hv
  rw [versionIds_append] at hids
  rw [address?_eq_none_iff.mpr (List.append_eq_nil_iff.mp hids).1] at ha
  cases ha

/-- **Text right behind a change is part of it.** -/
theorem continueEntry_addEntry (hr : r.versionAt = none → r.latest = none) (e : Entry)
    (content : Text) : (r.addEntry e).continueEntry content = r.addEntry (e.extend content) := by
  unfold addEntry
  split
  · -- the change is passed over, and there is nothing else to join the text to
    rename_i hv
    rw [continueEntry, hr hv]
  · rename_i i hv
    exact congrArg (fun document : Changelog => { r with
      document := document
      latest := some ⟨i, r.sectionAt, (r.document.entriesIn i r.sectionAt).length⟩ })
      (r.document.modifyEntry_concat i r.sectionAt e fun e => e.extend content)

/-- **A change and the text joined to it are taken in as one change.** -/
theorem readAll_wrapped (hr : r.versionAt = none → r.latest = none) (texts : List Text)
    (e : Entry) : r.readAll (.change e :: texts.map .other) =
      r.addEntry (texts.foldl Entry.extend e) := by
  induction texts generalizing e with
  | nil => rfl
  | cons content texts ih =>
      have hstep : r.readAll (.change e :: (content :: texts).map .other) =
          ((r.addEntry e).continueEntry content).readAll (texts.map .other) := rfl
      rw [hstep, continueEntry_addEntry hr, List.foldl_cons, ← ih]
      rfl

end Reader

/-! ## 4. Files -/

/-- A line that a change is wrapped to: text behind an indentation, taken for nothing else. -/
structure WrappedLine where
  indent : Text
  content : Text
  blank : isBlank indent = true
  oneLine : '\n' ∉ indent
  phrase : Phrase content
  other : ∃ taken, classify (indent ++ content) = .other taken

namespace WrappedLine

/-- The line as it stands in the file. -/
def text (w : WrappedLine) : Text :=
  w.indent ++ w.content

/-- The indentation is passed over. -/
theorem classify_text (w : WrappedLine) : classify w.text = .other w.content := by
  obtain ⟨taken, h⟩ := w.other
  have htrim : trim w.text = w.content := by
    rw [trim, text, trimStart_append_of_isBlank w.blank, trimStart_of_startsFirm w.phrase.starts,
      trimEnd_of_endsFirm w.phrase.ends]
  rw [text, h, classify_other h]
  exact congrArg Line.other htrim

theorem endsFirm_text (w : WrappedLine) : endsFirm w.text = true :=
  endsFirm_append w.phrase.ends w.indent

theorem feed_not_mem_text (w : WrappedLine) : '\n' ∉ w.text := by
  simp [text, w.oneLine, w.phrase.oneLine]

end WrappedLine

/-- A phrase behind an asterisk is a change. -/
theorem classify_asterisk {t : Text} (h : Phrase t) :
    classify ("* " ++ t) = .change (Entry.ofText t) := by
  have hv : versionHeading? ("* " ++ t) = none := rfl
  have hs : sectionHeading? ("* " ++ t) = none := rfl
  have hc : changeText? ("* " ++ t) = some t := content?_phrase h "*"
  rw [classify, hv, hs, hc]

/-- A phrase behind an asterisk is on one line, which it ends firm. -/
theorem row_asterisk {t : Text} (h : Phrase t) :
    '\n' ∉ ("* " ++ t : Text) ∧ endsFirm ("* " ++ t) = true :=
  ⟨by simp [h.oneLine], endsFirm_append h.ends "* "⟩

/-- Texts of which the first starts firm and all end firm make a phrase, if all are on one line. -/
theorem phrase_joined {t : Text} {texts : List Text} (h : Phrase t)
    (hmore : ∀ u ∈ texts, Phrase u) :
    Phrase (joined " " (t :: texts)) := by
  induction texts generalizing t with
  | nil => rwa [joined_singleton]
  | cons u texts ih =>
      obtain ⟨hu, hrest⟩ := List.forall_mem_cons.mp hmore
      have htwo : Phrase (t ++ ' ' :: u) :=
        ⟨startsFirm_append h.starts _, endsFirm_append (endsFirm_cons hu.ends ' ') t,
          by simp [h.oneLine, hu.oneLine]⟩
      rw [← joined_extended]
      exact ih htwo hrest

namespace Changelog

/-- Lines one below the other. -/
theorem laidOut_joined_feed {rows : List Text} (hne : rows ≠ [])
    (hrows : ∀ row ∈ rows, '\n' ∉ row ∧ endsFirm row = true) : LaidOut (joined "\n" rows) rows := by
  have hlaid := laidOut_joined separates_feed hne fun row hrow =>
    laidOut_of_endsFirm (hrows row hrow).1 (hrows row hrow).2
  rw [intercalate_nil_map_singleton fun row => row, List.map_id'] at hlaid
  exact hlaid

/-- A block of lines between two parts of a file, taken in by a reader that has read the first. -/
theorem parse_block {a t : Text} {rows : List Text} (ha : a = [] ∨ a.getLast? = some '\n')
    (ht : LaidOut t rows) (b : Text) : parse (a ++ (t ++ '\n' :: b)) =
      (((Reader.start.readAll (linesOf a)).readAll (rows.map classify)).readAll
        (linesOf b)).document := by
  have hblock : linesOf (t ++ '\n' :: b) = rows.map classify ++ linesOf b := by
    unfold linesOf
    rw [ht b, List.map_append]
  have hlines : linesOf (a ++ (t ++ '\n' :: b)) =
      linesOf a ++ (rows.map classify ++ linesOf b) := by
    rcases ha with rfl | ha
    · exact hblock
    · rw [linesOf_append ha, hblock]
  rw [parse, hlines, Reader.readAll_append, Reader.readAll_append]

/-- **Where a change is wrapped makes no difference**, wherever in a file it stands and whatever
follows it, as long as its text does not end in a reference before it is whole. -/
theorem parse_wrapped {a p : Text} {wraps : List WrappedLine}
    (ha : a = [] ∨ a.getLast? = some '\n') (hp : Phrase p)
    (hplain : ∀ early, early <+: wraps.map WrappedLine.content →
      early ≠ wraps.map WrappedLine.content → ¬ EndsInReference (joined " " (p :: early)))
    (b : Text) :
    let wrapped := joined "\n" (("* " ++ p) :: wraps.map WrappedLine.text)
    let whole := "* " ++ joined " " (p :: wraps.map WrappedLine.content)
    parse (a ++ (wrapped ++ '\n' :: b)) = parse (a ++ (whole ++ '\n' :: b)) ∧
      parse (a ++ wrapped) = parse (a ++ whole) := by
  intro wrapped whole
  let rows := ("* " ++ p) :: wraps.map WrappedLine.text
  have hphrase : Phrase (joined " " (p :: wraps.map WrappedLine.content)) :=
    phrase_joined hp (List.forall_mem_map.mpr fun w _ => w.phrase)
  -- both texts are laid out, and they end firm, so that a line feed behind them adds nothing
  have hrows : ∀ row ∈ rows, '\n' ∉ row ∧ endsFirm row = true :=
    List.forall_mem_cons.mpr ⟨row_asterisk hp,
      List.forall_mem_map.mpr fun w _ => ⟨w.feed_not_mem_text, w.endsFirm_text⟩⟩
  have hwrapped : LaidOut wrapped rows := laidOut_joined_feed (List.cons_ne_nil _ _) hrows
  have hfirmWrapped : endsFirm wrapped = true := by
    have hjoined := endsFirm_joined "\n" (List.cons_ne_nil _ _) fun row hrow => (hrows row hrow).2
    rwa [List.map_id'] at hjoined
  obtain ⟨hlineWhole, hfirmWhole⟩ := row_asterisk hphrase
  have hwhole : LaidOut whole [whole] := laidOut_of_endsFirm hlineWhole hfirmWhole
  -- the lines leave a reader at the same place
  have hforms : rows.map classify =
      .change (Entry.ofText p) :: (wraps.map WrappedLine.content).map .other := by
    simp only [rows, List.map_cons, List.map_map, classify_asterisk hp]
    exact congrArg (_ :: ·) (List.map_congr_left fun w _ => w.classify_text)
  have hread : (Reader.start.readAll (linesOf a)).readAll (rows.map classify) =
      (Reader.start.readAll (linesOf a)).readAll ([whole].map classify) := by
    have htracks := Reader.tracks_start.readAll (linesOf a)
    rw [hforms, Reader.readAll_wrapped htracks.latest_eq_none, Entry.foldl_extend_ofText hplain,
      List.map_singleton, classify_asterisk hphrase]
    rfl
  have hsame (b : Text) : parse (a ++ (wrapped ++ '\n' :: b)) =
      parse (a ++ (whole ++ '\n' :: b)) := by
    rw [parse_block ha hwrapped, parse_block ha hwhole, hread]
  refine ⟨hsame b, ?_⟩
  have hend := hsame []
  rw [← List.append_assoc, ← List.append_assoc, parse_concat_feed (endsFirm_append hfirmWrapped a),
    parse_concat_feed (endsFirm_append hfirmWhole a)] at hend
  exact hend

/-- A reference stands on the last of three lines, behind a late `HEAD`, and more text follows. -/
theorem parse_wrapped_reference :
    let a : Text := "## 1.0.0\n* Old\n## head\n### Bugs\n"
    let b : Text := "Again\n* Next\n"
    parse (a ++ ("* Fix\n    ## it\n\t(#7)" ++ '\n' :: b)) =
        parse (a ++ ("* Fix ## it (#7)" ++ '\n' :: b)) ∧
      parse (a ++ ("* Fix ## it (#7)" ++ '\n' :: b)) =
        ⟨[⟨Version.head, none, [], [⟨"Bugs", [⟨"Fix ## it Again", some "#7"⟩, ⟨"Next", none⟩]⟩]⟩,
          ⟨"1.0.0", none, [⟨"Old", none⟩], []⟩]⟩ := by
  intro a b
  let middle : WrappedLine :=
    { indent := "    "
      content := "## it"
      blank := by decide
      oneLine := by decide
      phrase := by decide +kernel
      other := ⟨"## it", by decide +kernel⟩ }
  let last : WrappedLine :=
    { indent := "\t"
      content := "(#7)"
      blank := by decide
      oneLine := by decide
      phrase := by decide +kernel
      other := ⟨"(#7)", by decide +kernel⟩ }
  have hplain : ∀ early, early <+: [middle, last].map WrappedLine.content →
      early ≠ [middle, last].map WrappedLine.content →
        ¬ EndsInReference (joined " " ("Fix".toList :: early)) := by
    intro early hpre hne
    rcases List.prefix_cons_iff.mp hpre with rfl | ⟨more, rfl, hmore⟩
    · decide +kernel
    rcases List.prefix_cons_iff.mp hmore with rfl | ⟨none, rfl, hnone⟩
    · decide +kernel
    · rw [List.prefix_nil.mp hnone] at hne
      exact absurd rfl hne
  obtain ⟨hsame, -⟩ := parse_wrapped (a := a) (.inr rfl) (by decide +kernel) hplain b
  exact ⟨hsame, by decide +kernel⟩

end Changelog

end MergeScribe
