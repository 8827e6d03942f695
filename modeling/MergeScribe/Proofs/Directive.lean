import MergeScribe.Directive
import MergeScribe.Proofs.Text.Trim

/-!
# What a comment asks for

A merge directive said without the search for it: an at sign and a handle, a colon and a space, and
a word that asks for a merge, behind which a label may stand. A comment may hold several of these,
and beginnings that come to nothing; the first place that is complete counts. Main statement: the
directive that is found in a comment is the one that stands there (`Directive.find?_exact`).
-/

namespace MergeScribe

open Text

namespace Directive

/-! ## 1. The grammar -/

/-- An ASCII letter, an underscore or a hyphen. -/
def HandleChar (c : Char) : Prop :=
  'a' ≤ c ∧ c ≤ 'z' ∨ 'A' ≤ c ∧ c ≤ 'Z' ∨ c = '_' ∨ c = '-'

/-- A handle character or a space. -/
def LabelChar (c : Char) : Prop :=
  HandleChar c ∨ c = ' '

/-- A word that asks for a merge. -/
inductive Verb : Text → Prop
  | merge : Verb "merge"
  | shipit : Verb ":shipit:"
  | ship : Verb ":ship:"

/-- The text asks for a merge right at its start, and `rest` follows the word that does. -/
def AsksAt (t rest : Text) : Prop :=
  ∃ handle verb : Text, handle ≠ [] ∧ (∀ c ∈ handle, HandleChar c) ∧ Verb verb ∧
    t = '@' :: (handle ++ (": " ++ (verb ++ rest)))

/-- `rest` follows the first place in a comment that asks for a merge. -/
def AsksFirst (body rest : Text) : Prop :=
  ∃ before place : Text, body = before ++ place ∧ AsksAt place rest ∧
    ∀ early late : Text, body = early ++ late → early.length < before.length →
      ∀ rest, ¬ AsksAt late rest

/-- What follows the word that asks for a merge gives a label: a space, a plus sign, and label
characters as far as they go, which are not all spaces and are trimmed. -/
def Labelled (rest label : Text) : Prop :=
  ∃ run more : Text, rest = " +" ++ (run ++ more) ∧ run ≠ [] ∧ (∀ c ∈ run, LabelChar c) ∧
    (∀ c ∈ more.head?, ¬ LabelChar c) ∧ trim run = label ∧ label ≠ []

/-! ## 2. Characters and words -/

theorem isHandleChar_iff {c : Char} : isHandleChar c = true ↔ HandleChar c := by
  have hupper : c.isUpper = true ↔ 'A' ≤ c ∧ c ≤ 'Z' := decide_eq_true_iff
  have hlower : c.isLower = true ↔ 'a' ≤ c ∧ c ≤ 'z' :=
    Bool.and_eq_true_iff.trans (and_congr decide_eq_true_iff decide_eq_true_iff)
  have halpha : c.isAlpha = (c.isUpper || c.isLower) := rfl
  rw [isHandleChar, Bool.or_eq_true, Bool.or_eq_true, halpha, Bool.or_eq_true, hupper, hlower,
    beq_iff_eq, beq_iff_eq, or_comm (a := 'A' ≤ c ∧ c ≤ 'Z'), HandleChar, or_assoc, or_assoc]

theorem isLabelChar_iff {c : Char} : isLabelChar c = true ↔ LabelChar c := by
  rw [isLabelChar, Bool.or_eq_true, isHandleChar_iff, beq_iff_eq, LabelChar]

/-- No word that asks for a merge is the beginning of another. -/
theorem afterVerb?_eq_some_iff {t rest : Text} :
    afterVerb? t = some rest ↔ ∃ verb, Verb verb ∧ t = verb ++ rest := by
  constructor
  · intro h
    obtain ⟨verb, hmem, hafter⟩ := List.exists_of_findSome?_eq_some h
    refine ⟨verb, ?_, after?_eq_some_iff.mp hafter⟩
    have hverbs : verb = "merge".toList ∨ verb = ":shipit:".toList ∨ verb = ":ship:".toList := by
      simpa [verbs] using hmem
    rcases hverbs with rfl | rfl | rfl
    · exact .merge
    · exact .shipit
    · exact .ship
  · rintro ⟨verb, hverb, rfl⟩
    cases hverb <;> rfl

/-! ## 3. A place that asks -/

/-- A handle ends where the colon stands. -/
theorem afterCall?_eq_some_iff {t rest : Text} : afterCall? t = some rest ↔
    ∃ handle : Text, handle ≠ [] ∧ (∀ c ∈ handle, HandleChar c) ∧
      t = '@' :: (handle ++ (": " ++ rest)) := by
  constructor
  · intro h
    unfold afterCall? at h
    split at h
    · rename_i text
      split at h
      · cases h
      · rename_i hne
        refine ⟨text.takeWhile isHandleChar, fun e => hne (List.isEmpty_iff.mpr e), fun c hc => ?_, ?_⟩
        · exact isHandleChar_iff.mp (List.all_eq_true.mp List.all_takeWhile c hc)
        · rw [← after?_eq_some_iff.mp h, List.takeWhile_append_dropWhile]
    · cases h
  · rintro ⟨handle, hne, hchars, rfl⟩
    have hall : ∀ c ∈ handle, isHandleChar c = true := fun c hc => isHandleChar_iff.mpr (hchars c hc)
    have htake : (handle ++ (": " ++ rest)).takeWhile isHandleChar = handle := by
      rw [List.takeWhile_append_of_pos hall]
      exact List.append_nil handle
    have hdrop : (handle ++ (": " ++ rest)).dropWhile isHandleChar = ": " ++ rest := by
      rw [List.dropWhile_append_of_pos hall]
      rfl
    rw [afterCall?, htake, hdrop, if_neg (by simpa using hne)]
    exact after?_eq_some_iff.mpr rfl

theorem asked_eq_some_iff {t rest : Text} :
    (afterCall? t).bind afterVerb? = some rest ↔ AsksAt t rest := by
  rw [Option.bind_eq_some_iff]
  constructor
  · rintro ⟨behind, hcall, hverb⟩
    obtain ⟨handle, hne, hchars, rfl⟩ := afterCall?_eq_some_iff.mp hcall
    obtain ⟨verb, hword, rfl⟩ := afterVerb?_eq_some_iff.mp hverb
    exact ⟨handle, verb, hne, hchars, hword, rfl⟩
  · rintro ⟨handle, verb, hne, hchars, hverb, rfl⟩
    exact ⟨verb ++ rest, afterCall?_eq_some_iff.mpr ⟨handle, hne, hchars, rfl⟩,
      afterVerb?_eq_some_iff.mpr ⟨verb, hverb, rfl⟩⟩

theorem at?_eq_some_iff {t : Text} {directive : Directive} :
    at? t = some directive ↔ ∃ rest, AsksAt t rest ∧ directive.label = label? rest := by
  rw [at?, Option.map_eq_some_iff]
  refine exists_congr fun rest => and_congr asked_eq_some_iff ?_
  obtain ⟨label⟩ := directive
  exact Iff.trans (by rw [Directive.mk.injEq]) eq_comm

theorem at?_eq_none_iff {t : Text} : at? t = none ↔ ∀ rest, ¬ AsksAt t rest := by
  rw [at?, Option.map_eq_none_iff, Option.eq_none_iff_forall_ne_some]
  exact forall_congr' fun rest => not_congr asked_eq_some_iff

/-! ## 4. The label -/

theorem label?_eq_some_iff {rest label : Text} : label? rest = some label ↔ Labelled rest label := by
  constructor
  · intro h
    obtain ⟨text, hafter, h⟩ := Option.bind_eq_some_iff.mp h
    replace h : (if (trim (text.takeWhile isLabelChar)).isEmpty then none
      else some (trim (text.takeWhile isLabelChar))) = some label := h
    split at h
    · cases h
    · rename_i hne
      cases h
      have hlabel : trim (text.takeWhile isLabelChar) ≠ [] := fun e => hne (List.isEmpty_iff.mpr e)
      refine ⟨text.takeWhile isLabelChar, text.dropWhile isLabelChar, ?_, fun e => ?_, fun c hc => ?_,
        fun c hc => ?_, rfl, hlabel⟩
      · rw [List.takeWhile_append_dropWhile]
        exact after?_eq_some_iff.mp hafter
      · rw [e] at hlabel
        exact hlabel rfl
      · exact isLabelChar_iff.mp (List.all_eq_true.mp List.all_takeWhile c hc)
      · intro hchar
        have hstop := List.head?_dropWhile_not isLabelChar text
        rw [Option.mem_def.mp hc] at hstop
        simp [isLabelChar_iff.mpr hchar] at hstop
  · rintro ⟨run, more, rfl, -, hrun, hmore, rfl, hne⟩
    have hall : ∀ c ∈ run, isLabelChar c = true := fun c hc => isLabelChar_iff.mpr (hrun c hc)
    have htake : (run ++ more).takeWhile isLabelChar = run := by
      rw [List.takeWhile_append_of_pos hall]
      cases more with
      | nil => exact List.append_nil run
      | cons c more =>
          have hc : isLabelChar c = false :=
            Bool.eq_false_iff.mpr fun e => hmore c rfl (isLabelChar_iff.mp e)
          simp [hc]
    have hafter : after? " +" (" +" ++ (run ++ more)) = some (run ++ more) :=
      after?_eq_some_iff.mpr rfl
    rw [label?, hafter, Option.bind_some, htake]
    exact if_neg (by simpa using hne)

/-- **A label is not empty, trimmed, and made of label characters.** -/
theorem Labelled.tidy {rest label : Text} (h : Labelled rest label) :
    label ≠ [] ∧ trim label = label ∧ ∀ c ∈ label, LabelChar c := by
  obtain ⟨run, more, -, -, hrun, -, rfl, hne⟩ := h
  refine ⟨hne, trim_trim run, fun c hc => hrun c ?_⟩
  exact (trimStart_isSuffix run).subset ((trimEnd_isPrefix _).subset hc)

/-! ## 5. The first place -/

theorem not_asksAt_nil (rest : Text) : ¬ AsksAt [] rest := by
  rintro ⟨handle, verb, -, -, -, h⟩
  cases h

/-- The first place is right at the start, or it is the first one behind the first character. -/
theorem asksFirst_cons_iff {c : Char} {body rest : Text} : AsksFirst (c :: body) rest ↔
    AsksAt (c :: body) rest ∨ (∀ rest, ¬ AsksAt (c :: body) rest) ∧ AsksFirst body rest := by
  constructor
  · rintro ⟨before, place, hbody, hasks, hfirst⟩
    cases before with
    | nil =>
        rw [List.nil_append] at hbody
        exact .inl (hbody ▸ hasks)
    | cons d before =>
        obtain ⟨rfl, rfl⟩ := List.cons.inj hbody
        refine .inr ⟨hfirst [] _ rfl (Nat.zero_lt_succ _), before, place, rfl, hasks, ?_⟩
        intro early late hsplit hlength
        exact hfirst (c :: early) late (congrArg (c :: ·) hsplit) (Nat.succ_lt_succ hlength)
  · rintro (hasks | ⟨hnone, before, place, rfl, hasks, hfirst⟩)
    · exact ⟨[], c :: body, rfl, hasks, fun _ _ _ hlength => absurd hlength (Nat.not_lt_zero _)⟩
    · refine ⟨c :: before, place, rfl, hasks, fun early late hsplit hlength => ?_⟩
      cases early with
      | nil =>
          rw [List.nil_append] at hsplit
          exact hsplit ▸ hnone
      | cons d early =>
          exact hfirst early late (List.cons.inj hsplit).2 (Nat.lt_of_succ_lt_succ hlength)

/-- **The directive that is found is the first one.** -/
theorem find?_eq_some_iff {body : Text} {directive : Directive} : find? body = some directive ↔
    ∃ rest, AsksFirst body rest ∧ directive.label = label? rest := by
  induction body with
  | nil =>
      refine iff_of_false (fun h => nomatch h) ?_
      rintro ⟨rest, ⟨before, place, hbody, hasks, -⟩, -⟩
      rw [(List.append_eq_nil_iff.mp hbody.symm).2] at hasks
      exact not_asksAt_nil rest hasks
  | cons c body ih =>
      rw [find?]
      split
      · -- the comment starts with a directive
        rename_i found hat
        obtain ⟨rest, hasks, -⟩ := at?_eq_some_iff.mp hat
        rw [← hat, at?_eq_some_iff]
        refine exists_congr fun rest' => and_congr_left' (Iff.trans ?_ asksFirst_cons_iff.symm)
        exact (or_iff_left fun h => h.1 rest hasks).symm
      · rename_i hat
        have hnone := at?_eq_none_iff.mp hat
        rw [ih]
        refine exists_congr fun rest => and_congr_left' (Iff.trans ?_ asksFirst_cons_iff.symm)
        exact ((or_iff_right (hnone rest)).trans (and_iff_right hnone)).symm

/-- **Where a place asks, a directive is found.** -/
theorem find?_isSome_iff {body : Text} : (find? body).isSome = true ↔
    ∃ before place rest : Text, body = before ++ place ∧ AsksAt place rest := by
  constructor
  · intro h
    obtain ⟨directive, hfound⟩ := Option.isSome_iff_exists.mp h
    obtain ⟨rest, ⟨before, place, hbody, hasks, -⟩, -⟩ := find?_eq_some_iff.mp hfound
    exact ⟨before, place, rest, hbody, hasks⟩
  · rintro ⟨before, place, rest, rfl, hasks⟩
    induction before with
    | nil =>
        cases place with
        | nil => exact absurd hasks (not_asksAt_nil rest)
        | cons c place =>
            obtain ⟨found, hat⟩ : ∃ found, at? (c :: place) = some found :=
              ⟨⟨label? rest⟩, at?_eq_some_iff.mpr ⟨rest, hasks, rfl⟩⟩
            rw [List.nil_append, find?, hat]
            rfl
    | cons c before ih =>
        rw [List.cons_append, find?]
        split
        · rfl
        · exact ih

/-- **Reading a comment is exact.** A directive is found exactly if some place asks for a merge; it is
the one of the first such place, and its label is the one that stands there, if one does. -/
theorem find?_exact (body : Text) :
    ((find? body).isSome = true ↔
      ∃ before place rest : Text, body = before ++ place ∧ AsksAt place rest) ∧
    (∀ directive, find? body = some directive ↔ ∃ rest, AsksFirst body rest ∧
      ∀ label, directive.label = some label ↔ Labelled rest label) ∧
    ∀ directive label, find? body = some directive → directive.label = some label →
      label ≠ [] ∧ trim label = label ∧ ∀ c ∈ label, LabelChar c := by
  have hlabel (directive : Directive) (rest : Text) : directive.label = label? rest ↔
      ∀ label, directive.label = some label ↔ Labelled rest label := by
    rw [Option.ext_iff]
    exact forall_congr' fun label => iff_congr Iff.rfl label?_eq_some_iff
  refine ⟨find?_isSome_iff, fun directive => ?_, fun directive label hfound hhas => ?_⟩
  · rw [find?_eq_some_iff]
    exact exists_congr fun rest => and_congr_right' (hlabel directive rest)
  · obtain ⟨rest, -, hread⟩ := find?_eq_some_iff.mp hfound
    exact (((hlabel directive rest).mp hread label).mp hhas).tidy

/-- Beginnings that come to nothing are passed over, and so is a second directive. -/
example : find? "@a: mer @: merge @b c: merge\n@@x_Y-: :ship: + Bug -Fix \n@c: merge +no" =
    some ⟨some "Bug -Fix"⟩ := by
  decide +kernel

end Directive

end MergeScribe
