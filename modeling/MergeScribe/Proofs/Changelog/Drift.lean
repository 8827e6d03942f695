import Mathlib.Logic.Relation
import MergeScribe.Proofs.Changelog.Blocks
import MergeScribe.Proofs.Changelog.Ink
import MergeScribe.Proofs.Changelog.RoundTrip

/-!
# Drift in the layout

Files that are edited by hand drift: spaces are left behind at the end of a line, carriage returns
come in, changes are indented this way or that, blank lines come and go. Main statements: spaces at
the end of a line make no difference to its form (`classify_append_of_isBlank`), nor does the
indentation of an asterisk (`classify_indented`); so none of this can be seen in the document of a
file, and only blank lines can be seen in what a careful reader says about it, by the numbers of the
lines below them (`Changelog.parse_drifted`).
-/

namespace MergeScribe

open Text

/-! ## 1. Spaces at the end of a line -/

section Trailing

variable {space : Text} (hb : isBlank space = true)

include hb

/-- A mark without spaces does not reach into the spaces at the end. -/
theorem after?_append_of_isBlank {mark : Text} (hmark : ∀ c ∈ mark, isSpace c = false) (t : Text) :
    after? mark (t ++ space) = (after? mark t).map (· ++ space) := by
  induction mark generalizing t with
  | nil => rfl
  | cons m mark ih =>
      obtain ⟨hm, hmark⟩ := List.forall_mem_cons.mp hmark
      cases t with
      | nil =>
          cases space with
          | nil => rfl
          | cons c space =>
              have hne : m ≠ c := by
                rintro rfl
                rw [List.all_eq_true.mp hb m List.mem_cons_self] at hm
                cases hm
              rw [List.nil_append, after?, after?, if_neg hne]
              rfl
      | cons c t =>
          rw [List.cons_append, after?, after?]
          split
          · exact ih hmark t
          · rfl

/-- What is read behind spaces does not change with the spaces at the end, if it can be told from
text that starts firm. -/
theorem afterSpaces?_bind_append {α : Type} {f : Text → Option α} (hnil : f [] = none)
    (hf : ∀ t, startsFirm t = true → f (t ++ space) = f t) (t : Text) :
    (afterSpaces? (t ++ space)).bind f = (afterSpaces? t).bind f := by
  have hblank {u : Text} (hu : isBlank u = true) : (afterSpaces? u).bind f = none := by
    cases u with
    | nil => rfl
    | cons c u =>
        obtain ⟨hc, hu⟩ := Bool.and_eq_true_iff.mp ((isBlank_cons c u).symm.trans hu)
        rw [afterSpaces?, if_pos hc, trimStart_eq_nil_iff.mpr hu]
        exact hnil
  by_cases ht : isBlank t = true
  · have happend : isBlank (t ++ space) = true := by rw [isBlank_append, ht, hb, Bool.and_self]
    rw [hblank ht, hblank happend]
  · cases t with
    | nil => exact absurd rfl ht
    | cons c more =>
        rw [List.cons_append, afterSpaces?, afterSpaces?]
        split
        · rename_i hc
          have hmore : isBlank more = false := by simpa [isBlank_cons, hc] using ht
          rw [trimStart_append hmore, Option.bind_some, Option.bind_some]
          refine hf _ (startsFirm_trimStart fun e => ?_)
          rw [trimStart_eq_nil_iff.mp e] at hmore
          cases hmore
        · rfl

theorem content?_append_of_isBlank {mark : Text} (hmark : ∀ c ∈ mark, isSpace c = false)
    (t : Text) : content? mark (t ++ space) = content? mark t := by
  unfold content?
  rw [Option.bind_assoc, Option.bind_assoc, after?_append_of_isBlank hb hmark, Option.bind_map]
  refine congrArg _ (funext fun rest => afterSpaces?_bind_append hb rfl (fun t ht => ?_) rest)
  obtain ⟨c, more, rfl, -⟩ := startsFirm_iff.mp ht
  rw [trimEnd_append_of_isBlank hb]
  rfl

theorem headingDate?_append_of_isBlank (t : Text) :
    headingDate? (t ++ space) = headingDate? t := by
  have hall : isBlank (t ++ space) = isBlank t := by rw [isBlank_append, hb, Bool.and_true]
  have hdate := afterSpaces?_bind_append hb (f := content? "/") rfl
    (fun t _ => content?_append_of_isBlank hb (not_isSpace_of_all (by decide)) t) t
  rw [headingDate?, headingDate?, hall, hdate]

/-- The first word ends where it did. -/
theorem span_append_of_isBlank (t : Text) :
    (t ++ space).takeWhile (fun c => !isSpace c) = t.takeWhile (fun c => !isSpace c) ∧
      (t ++ space).dropWhile (fun c => !isSpace c) =
        t.dropWhile (fun c => !isSpace c) ++ space := by
  induction t with
  | nil =>
      cases space with
      | nil => exact ⟨rfl, rfl⟩
      | cons c space => simp [List.all_eq_true.mp hb c List.mem_cons_self]
  | cons c t ih =>
      by_cases hc : isSpace c = true
      · simp [hc]
      · simpa [hc] using ih

theorem versionHeading?_append_of_isBlank (line : Text) :
    versionHeading? (line ++ space) = versionHeading? line := by
  unfold versionHeading?
  rw [Option.bind_assoc, Option.bind_assoc,
    after?_append_of_isBlank hb (not_isSpace_of_all (by decide)), Option.bind_map]
  refine congrArg _ (funext fun rest => afterSpaces?_bind_append hb rfl (fun t _ => ?_) rest)
  obtain ⟨htake, hdrop⟩ := span_append_of_isBlank hb t
  rw [htake, hdrop, headingDate?_append_of_isBlank hb]

theorem changeText?_append_of_isBlank (line : Text) :
    changeText? (line ++ space) = changeText? line := by
  unfold changeText?
  by_cases hl : isBlank line = true
  · rw [trimStart_append_of_isBlank hl, trimStart_eq_nil_iff.mpr hl, trimStart_eq_nil_iff.mpr hb]
  · rw [trimStart_append (Bool.eq_false_iff.mpr hl)]
    exact content?_append_of_isBlank hb (not_isSpace_of_all (by decide)) _

/-- **Spaces at the end of a line make no difference to its form.** -/
theorem classify_append_of_isBlank (line : Text) : classify (line ++ space) = classify line := by
  have hall : isBlank (line ++ space) = isBlank line := by rw [isBlank_append, hb, Bool.and_true]
  have hsection : sectionHeading? (line ++ space) = sectionHeading? line :=
    content?_append_of_isBlank hb (not_isSpace_of_all (by decide)) line
  unfold classify
  rw [versionHeading?_append_of_isBlank hb, hsection, changeText?_append_of_isBlank hb, hall,
    trim_append_of_isBlank hb]

end Trailing

/-! ## 2. The indentation of an asterisk -/

/-- **How far an asterisk is indented makes no difference to the form of its line.** -/
theorem classify_indented {indent : Text} (hb : isBlank indent = true) (more : Text) :
    classify (indent ++ '*' :: more) = classify ('*' :: more) := by
  have hhash (mark : Text) : after? ('#' :: mark) (indent ++ '*' :: more) = none := by
    cases indent with
    | nil => rfl
    | cons c indent =>
        have hne : '#' ≠ c := by
          rintro rfl
          exact absurd (List.all_eq_true.mp hb '#' List.mem_cons_self) (by decide)
        rw [List.cons_append, after?, if_neg hne]
  have hversion : versionHeading? (indent ++ '*' :: more) = none := by
    have hmark : after? "##" (indent ++ '*' :: more) = none := hhash "#"
    rw [versionHeading?, hmark]
    rfl
  have hsection : sectionHeading? (indent ++ '*' :: more) = none := by
    have hmark : after? "###" (indent ++ '*' :: more) = none := hhash "##"
    rw [sectionHeading?, content?, hmark]
    rfl
  have hchange : changeText? (indent ++ '*' :: more) = changeText? ('*' :: more) := by
    rw [changeText?, changeText?, trimStart_append_of_isBlank hb]
  have hblank : isBlank (indent ++ '*' :: more) = false := by
    simp [isBlank, show isSpace '*' = false by decide]
  have htrim : trim (indent ++ '*' :: more) = trim ('*' :: more) := by
    rw [trim, trim, trimStart_append_of_isBlank hb]
  rw [classify, hversion, hsection, hchange, hblank, htrim]
  rfl

/-! ## 3. Drift -/

/-- Nothing, or text behind which a new line starts. -/
def Text.AtLineStart (before : Text) : Prop :=
  before = [] ∨ before.getLast? = some '\n'

/-- Nothing, or text in front of which a line ends. -/
def Text.AtLineEnd (after : Text) : Prop :=
  after = [] ∨ ∃ rest, after = '\n' :: rest ∨ after = '\r' :: '\n' :: rest

/-- One change to the spaces of a file that leaves its lines in place: spaces are added at the end of
a line, an asterisk is indented anew, or a line feed is added at the end of the file. -/
inductive Respaced : Text → Text → Prop
  | trailing (before space after : Text) (hb : isBlank space = true) (hl : '\n' ∉ space)
      (hend : AtLineEnd after) : Respaced (before ++ after) (before ++ (space ++ after))
  | indented (before indent indent' more : Text) (hstart : AtLineStart before)
      (hb : isBlank indent = true) (hl : '\n' ∉ indent) (hb' : isBlank indent' = true)
      (hl' : '\n' ∉ indent') :
      Respaced (before ++ (indent ++ '*' :: more)) (before ++ (indent' ++ '*' :: more))
  | feed (t : Text) : Respaced t (t ++ ['\n'])

/-- One change to the layout of a file: to the spaces in its lines, or a blank line is put in. -/
inductive Drifted : Text → Text → Prop
  | respaced {t t' : Text} (h : Respaced t t') : Drifted t t'
  | blankLine (before space after : Text) (hstart : AtLineStart before)
      (hb : isBlank space = true) (hl : '\n' ∉ space) :
      Drifted (before ++ after) (before ++ (space ++ '\n' :: after))

/-- A file with a carriage return in front of every line feed. -/
def Text.withReturns (t : Text) : Text :=
  t.flatMap fun c => if c = '\n' then "\r\n" else [c]

theorem respaced_withReturns (before t : Text) :
    Relation.EqvGen Respaced (before ++ t) (before ++ withReturns t) := by
  induction t generalizing before with
  | nil => exact .refl _
  | cons c t ih =>
      by_cases hc : c = '\n'
      · -- the line feed gets its carriage return, and the rest of the file follows
        subst hc
        have hreturn : Respaced (before ++ '\n' :: t) (before ++ ("\r" ++ '\n' :: t)) :=
          .trailing before "\r" ('\n' :: t) (by decide) (by decide) (.inr ⟨t, .inl rfl⟩)
        have hrest := ih (before ++ "\r\n")
        rw [List.append_assoc, List.append_assoc] at hrest
        exact (Relation.EqvGen.rel _ _ hreturn).trans _ _ _ hrest
      · have hrest := ih (before ++ [c])
        rw [List.append_assoc, List.append_assoc] at hrest
        have hkeep : withReturns (c :: t) = [c] ++ withReturns t := by
          simp [withReturns, hc]
        rw [hkeep]
        exact hrest

/-! ## 4. Lines -/

namespace Text

/-- A carriage return right before the line feed is not part of the line. -/
theorem lines_append_return {line : Text} (hl : '\n' ∉ line) (rest : Text) :
    lines (line ++ '\r' :: '\n' :: rest) = line :: lines rest := by
  induction line with
  | nil => rw [List.nil_append, lines]
  | cons c line ih =>
      obtain ⟨hc, hline⟩ := not_or.mp (mt List.mem_cons.mpr hl)
      refine lines_cons (Ne.symm hc) (fun _ e => ?_) (ih hline)
      cases line with
      | nil => cases e
      | cons d line => exact hline (Option.some.inj e ▸ List.mem_cons_self)

/-- Text without line feeds is one line. -/
theorem lines_of_not_mem {line : Text} (hne : line ≠ []) (hl : '\n' ∉ line) :
    lines line = [line] := by
  induction line with
  | nil => exact absurd rfl hne
  | cons c line ih =>
      obtain ⟨hc, hline⟩ := not_or.mp (mt List.mem_cons.mpr hl)
      cases line with
      | nil =>
          rw [lines]
          · rfl
          · exact Ne.symm hc
          · intro _ _ e
            cases e
      | cons d line =>
          refine lines_cons (Ne.symm hc) (fun _ e => hline ?_) (ih (List.cons_ne_nil d line) hline)
          rw [Option.some.inj e]
          exact List.mem_cons_self

end Text

/-- Text ends in the beginning of a line, which may be empty. -/
theorem exists_lastLine (t : Text) :
    ∃ before line : Text, t = before ++ line ∧ AtLineStart before ∧ '\n' ∉ line := by
  induction t using List.reverseRecOn with
  | nil => exact ⟨[], [], rfl, .inl rfl, List.not_mem_nil⟩
  | append_singleton t c ih =>
      obtain ⟨before, line, rfl, hstart, hl⟩ := ih
      by_cases hc : c = '\n'
      · refine ⟨before ++ line ++ [c], [], (List.append_nil _).symm, .inr ?_, List.not_mem_nil⟩
        rw [List.getLast?_concat, hc]
      · refine ⟨before, line ++ [c], List.append_assoc .., hstart, ?_⟩
        simp [hl, Ne.symm hc]

namespace Changelog

theorem linesOf_append_of_atLineStart {before : Text} (h : AtLineStart before) (rest : Text) :
    linesOf (before ++ rest) = linesOf before ++ linesOf rest := by
  rcases h with rfl | h
  · rfl
  · exact linesOf_append h rest

/-- A line that a line feed ends, with a carriage return in front of it or without. -/
theorem linesOf_row {line : Text} (hl : '\n' ∉ line) (rest : Text) :
    linesOf (line ++ '\n' :: rest) = classify line :: linesOf rest := by
  by_cases hlast : line.getLast? = some '\r'
  · obtain ⟨before, rfl⟩ := List.getLast?_eq_some_iff.mp hlast
    have hbefore : '\n' ∉ before := fun hm => hl (List.mem_append_left _ hm)
    rw [classify_append_of_isBlank (by decide), linesOf, List.append_assoc]
    exact congrArg (List.map classify) (lines_append_return hbefore rest)
  · exact congrArg (List.map classify) (lines_append_feed hl hlast rest)

theorem linesOf_lastRow {line : Text} (hne : line ≠ []) (hl : '\n' ∉ line) :
    linesOf line = [classify line] := by
  rw [linesOf, lines_of_not_mem hne hl]
  rfl

/-- A line feed at the end makes a blank line, or none. -/
theorem linesOf_feed (t : Text) : linesOf (t ++ ['\n']) = linesOf t ∨
    linesOf (t ++ ['\n']) = linesOf t ++ [.blank] := by
  obtain ⟨before, line, rfl, hstart, hl⟩ := exists_lastLine t
  rw [List.append_assoc, linesOf_append_of_atLineStart hstart, linesOf_append_of_atLineStart hstart,
    linesOf_row hl]
  by_cases hne : line = []
  · subst hne
    exact .inr (by rw [classify_nil]; simp [linesOf])
  · rw [linesOf_lastRow hne hl]
    exact .inl rfl

/-- Spaces in front of a line feed. -/
theorem linesOf_trailing (before : Text) {space : Text} (hb : isBlank space = true)
    (hl : '\n' ∉ space) (rest : Text) :
    linesOf (before ++ (space ++ '\n' :: rest)) = linesOf (before ++ '\n' :: rest) := by
  obtain ⟨earlier, line, rfl, hstart, hline⟩ := exists_lastLine before
  have hspaced : '\n' ∉ line ++ space := by simp [hline, hl]
  calc linesOf (earlier ++ line ++ (space ++ '\n' :: rest))
      = linesOf (earlier ++ (line ++ space ++ '\n' :: rest)) := by simp
    _ = linesOf earlier ++ classify (line ++ space) :: linesOf rest := by
        rw [linesOf_append_of_atLineStart hstart, linesOf_row hspaced]
    _ = linesOf earlier ++ classify line :: linesOf rest := by
        rw [classify_append_of_isBlank hb]
    _ = linesOf (earlier ++ (line ++ '\n' :: rest)) := by
        rw [linesOf_append_of_atLineStart hstart, linesOf_row hline]
    _ = linesOf (earlier ++ line ++ '\n' :: rest) := by simp

/-- An asterisk in a line that a line feed ends. -/
theorem linesOf_indented {before indent : Text} (hstart : AtLineStart before)
    (hb : isBlank indent = true) (hl : '\n' ∉ indent) {more : Text} (hmore : '\n' ∉ more)
    (rest : Text) : linesOf (before ++ (indent ++ '*' :: (more ++ '\n' :: rest))) =
      linesOf before ++ classify ('*' :: more) :: linesOf rest := by
  have hline : '\n' ∉ indent ++ '*' :: more := by simp [hl, hmore]
  have hrow : indent ++ '*' :: (more ++ '\n' :: rest) = (indent ++ '*' :: more) ++ '\n' :: rest := by
    simp
  rw [hrow, linesOf_append_of_atLineStart hstart, linesOf_row hline, classify_indented hb]

/-- A blank line. -/
theorem linesOf_blankLine {before space : Text} (hstart : AtLineStart before)
    (hb : isBlank space = true) (hl : '\n' ∉ space) (after : Text) :
    linesOf (before ++ (space ++ '\n' :: after)) = linesOf before ++ .blank :: linesOf after := by
  rw [linesOf_append_of_atLineStart hstart, linesOf_row hl, classify_eq_blank_iff.mpr hb]

end Changelog

/-! ## 5. Files that read alike -/

/-- Two files that hold the same document, and in which a careful reader objects to the same. -/
structure ReadsAlike (t t' : Text) : Prop where
  document : Changelog.parse t = Changelog.parse t'
  violations : Changelog.violations t = Changelog.violations t'

theorem Reader.violations_concat_blank (r : Reader) (number : Nat) (lines : List Line) :
    r.violations number (lines ++ [.blank]) = r.violations number lines := by
  induction lines generalizing r number with
  | nil => rfl
  | cons line lines ih => rw [List.cons_append, violations, violations, ih]

namespace ReadsAlike

open Changelog

variable {t t' u : Text}

theorem symm (h : ReadsAlike t t') : ReadsAlike t' t :=
  ⟨h.document.symm, h.violations.symm⟩

theorem trans (h : ReadsAlike t t') (h' : ReadsAlike t' u) : ReadsAlike t u :=
  ⟨h.document.trans h'.document, h.violations.trans h'.violations⟩

theorem of_linesOf (h : linesOf t = linesOf t') : ReadsAlike t t' where
  document := by rw [parse, parse, h]
  violations := by rw [Changelog.violations, Changelog.violations, h]

theorem feed (t : Text) : ReadsAlike t (t ++ ['\n']) := by
  rcases linesOf_feed t with h | h
  · exact of_linesOf h.symm
  · refine ⟨?_, ?_⟩
    · rw [parse, parse, h, Reader.readAll_append]
      rfl
    · rw [Changelog.violations, Changelog.violations, h, Reader.violations_concat_blank]

theorem parseStrict (h : ReadsAlike t t') : Changelog.parseStrict t = Changelog.parseStrict t' := by
  rw [Changelog.parseStrict, Changelog.parseStrict, h.document, h.violations]

/-- Where the last line of a file has a line feed, it need not be treated apart. -/
theorem of_feed (h : linesOf (t ++ ['\n']) = linesOf (t' ++ ['\n'])) : ReadsAlike t t' :=
  (feed t).trans ((of_linesOf h).trans (feed t').symm)

theorem of_respaced (h : Respaced t t') : ReadsAlike t t' := by
  cases h with
  | trailing before space after hb hl hend =>
      rcases hend with rfl | ⟨rest, rfl | rfl⟩
      · refine of_feed ?_
        rw [List.append_nil, List.append_nil, List.append_assoc]
        exact (linesOf_trailing before hb hl []).symm
      · exact of_linesOf (linesOf_trailing before hb hl rest).symm
      · -- the carriage return belongs to the spaces in front of the line feed
        have hb' : isBlank (space ++ "\r") = true := by
          rw [isBlank_append, hb, Bool.true_and]
          decide
        have hl' : '\n' ∉ space ++ "\r" := by simp [hl]
        have hspaced := linesOf_trailing before hb' hl' rest
        have hreturn := @linesOf_trailing before "\r" (by decide) (by decide) rest
        rw [List.append_assoc] at hspaced
        exact of_linesOf (hreturn.trans hspaced.symm)
  | indented before indent indent' more hstart hb hl hb' hl' =>
      obtain ⟨line, rest, hmore, hline⟩ :=
        List.eq_append_cons_of_mem (List.mem_append_right more (List.mem_singleton_self '\n'))
      refine of_feed ?_
      rw [List.append_assoc, List.append_assoc, List.append_assoc, List.append_assoc,
        List.cons_append, hmore, linesOf_indented hstart hb hl hline,
        linesOf_indented hstart hb' hl' hline]
  | feed => exact feed t

theorem of_eqvGen (h : Relation.EqvGen Respaced t t') : ReadsAlike t t' := by
  induction h with
  | rel t t' h => exact of_respaced h
  | refl t => exact of_linesOf rfl
  | symm t t' _ ih => exact ih.symm
  | trans t t' u _ _ ih ih' => exact ih.trans ih'

end ReadsAlike

namespace Changelog

theorem parse_of_drifted {t t' : Text} (h : Drifted t t') : parse t = parse t' := by
  cases h with
  | respaced h => exact (ReadsAlike.of_respaced h).document
  | blankLine before space after hstart hb hl =>
      rw [parse, parse, linesOf_blankLine hstart hb hl, linesOf_append_of_atLineStart hstart,
        Reader.readAll_append, Reader.readAll_append]
      rfl

theorem parse_of_eqvGen {t t' : Text} (h : Relation.EqvGen Drifted t t') : parse t = parse t' := by
  induction h with
  | rel t t' h => exact parse_of_drifted h
  | refl t => rfl
  | symm t t' _ ih => exact ih.symm
  | trans t t' u _ _ ih ih' => exact ih.trans ih'

/-- **Drift in the layout cannot be seen.** Whatever spaces are added or removed at the ends of lines
and in front of asterisks, whatever blank lines come and go, and whether a line feed ends the file or
not, the file holds the same document. As long as no blank line comes or goes, a careful reader says
the same about the same lines. So carriage returns make no difference. -/
theorem parse_drifted (t t' : Text) :
    (Relation.EqvGen Drifted t t' → parse t = parse t') ∧
    (Relation.EqvGen Respaced t t' →
      violations t = violations t' ∧ parseStrict t = parseStrict t') ∧
    parse t = parse (withReturns t) ∧ violations t = violations (withReturns t) ∧
      parseStrict t = parseStrict (withReturns t) := by
  have hreturns : ReadsAlike t (withReturns t) := .of_eqvGen (respaced_withReturns [] t)
  refine ⟨parse_of_eqvGen, fun h => ?_, hreturns.document, hreturns.violations,
    hreturns.parseStrict⟩
  have halike := ReadsAlike.of_eqvGen h
  exact ⟨halike.violations, halike.parseStrict⟩

/-- A carriage return, a tab in front of the asterisk and no line feed at the end; then also a blank
line in the middle of a wrapped change. -/
theorem parse_drifted_edited :
    let t : Text := "## 1.0.0\n* Fix\nit\n"
    let respaced : Text := "## 1.0.0\r\n\t* Fix\nit"
    let drifted : Text := "## 1.0.0\r\n\t* Fix\n \t\nit"
    Relation.EqvGen Respaced t respaced ∧ violations t = violations respaced ∧
      violations t = [⟨3, .unrecognized "it"⟩] ∧
      Relation.EqvGen Drifted t drifted ∧ parse t = parse drifted := by
  intro t respaced drifted
  have hreturn : Respaced t "## 1.0.0\r\n* Fix\nit\n" :=
    .trailing "## 1.0.0" "\r" "\n* Fix\nit\n" (by decide) (by decide)
      (.inr ⟨"* Fix\nit\n", .inl rfl⟩)
  have hindent : Respaced "## 1.0.0\r\n* Fix\nit\n" "## 1.0.0\r\n\t* Fix\nit\n" :=
    .indented "## 1.0.0\r\n" [] "\t" " Fix\nit\n" (.inr rfl) (by decide) (by decide)
      (by decide) (by decide)
  have hfeed : Respaced respaced "## 1.0.0\r\n\t* Fix\nit\n" := .feed respaced
  have hblank : Drifted respaced drifted :=
    .blankLine "## 1.0.0\r\n\t* Fix\n" " \t" "it" (.inr rfl) (by decide) (by decide)
  have hspaces : Relation.EqvGen Respaced t respaced :=
    .trans _ _ _ (.trans _ _ _ (.rel _ _ hreturn) (.rel _ _ hindent)) (.symm _ _ (.rel _ _ hfeed))
  have hall : Relation.EqvGen Drifted t drifted :=
    (hspaces.mono fun _ _ h => .respaced h).trans _ _ _ (.rel _ _ hblank)
  exact ⟨hspaces, ((parse_drifted t respaced).2.1 hspaces).1, by decide +kernel, hall,
    (parse_drifted t drifted).1 hall⟩

end Changelog

end MergeScribe
