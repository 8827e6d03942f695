import MergeScribe.Proofs.Changelog.Insertion
import MergeScribe.Proofs.History.Loop

/-!
# Entering a pull request twice

A pull request is entered again when its event is delivered again. What keeps it from being listed
twice is its reference, which the first entry shows unless its title is blank: then the reference is
read as the summary of an entry without one. Main statements: a pull request with some title on one
line is listed once it is entered (`lists_addMerge`), and for titles on one line this is exactly
when entering it again changes nothing (`addMerge_twice_iff`); without a title it is entered again
each time (`addMerge_twice_untitled`).
-/

namespace MergeScribe

open Text

namespace Merge

variable {t sectionName title : Text} {number : Nat}

/-- What is listed is not entered again, whatever the title. -/
theorem addMerge_of_lists (title : Text) (h : lists t sectionName number = true) :
    Changelog.addMerge t sectionName title (issueReference number) = (Changelog.parse t).render :=
  Changelog.addMerge_of_listed title (isReference_issueReference number) h

theorem parse_addMerge_of_lists (title : Text) (h : lists t sectionName number = true) :
    Changelog.parse (Changelog.addMerge t sectionName title (issueReference number)) =
      Changelog.parse t := by
  rw [addMerge_of_lists title h]
  exact (Changelog.parse_render_parse t).1

/-- The file with a pull request entered, if it did not list it before. -/
theorem parse_addMerge_of_not_lists (hs : sectionName = noSection ∨ Phrase sectionName)
    (hl : '\n' ∉ title) (h : lists t sectionName number = false) :
    Changelog.parse (Changelog.addMerge t sectionName title (issueReference number)) =
      ((Changelog.parse t).append Version.head (Place.ofSection sectionName)
        (Entry.ofTitle title (issueReference number))).2 :=
  Changelog.parse_addMerge_of_oneLine hs hl (isReference_issueReference number) h

/-- **A pull request with some title on one line is listed once it is entered.** -/
theorem lists_addMerge (t : Text) (number : Nat) (hs : sectionName = noSection ∨ Phrase sectionName)
    (hl : '\n' ∉ title) (hb : isBlank title = false) :
    lists (Changelog.addMerge t sectionName title (issueReference number)) sectionName number =
      true := by
  cases h : lists t sectionName number with
  | true =>
      unfold lists
      rw [parse_addMerge_of_lists title h]
      exact h
  | false =>
      unfold lists
      rw [parse_addMerge_of_not_lists hs hl h]
      refine Changelog.listed_append ?_
      simp [Entry.ofTitle, hb]

/-- A pull request without a title gains an entry that does not show its reference. -/
theorem entriesAt_addMerge_of_isBlank (hs : sectionName = noSection ∨ Phrase sectionName)
    (hl : '\n' ∉ title) (hb : isBlank title = true) (h : lists t sectionName number = false) :
    (Changelog.parse (Changelog.addMerge t sectionName title (issueReference number))).entriesAt
        Version.head (Place.ofSection sectionName) =
      (Changelog.parse t).entriesAt Version.head (Place.ofSection sectionName) ++
        [⟨"(" ++ issueReference number ++ ")", none⟩] := by
  rw [parse_addMerge_of_not_lists hs hl h, Entry.ofTitle, if_pos hb,
    Changelog.entriesAt_append (by rfl), if_pos ⟨rfl, rfl⟩]

/-- **When entering a pull request again changes nothing.** It does so when the first time left the
pull request listed, whatever its title. With a title on one line that is the case unless the title
is blank and the pull request was not listed before; then each time adds an entry. -/
theorem addMerge_twice_iff (t : Text) (title : Text) (number : Nat)
    (hs : sectionName = noSection ∨ Phrase sectionName) :
    let once := Changelog.addMerge t sectionName title (issueReference number)
    let twice := Changelog.addMerge once sectionName title (issueReference number)
    (lists once sectionName number = true → Changelog.parse twice = Changelog.parse once) ∧
      ('\n' ∉ title → (Changelog.parse twice = Changelog.parse once ↔
        isBlank title = false ∨ lists t sectionName number = true)) := by
  intro once twice
  refine ⟨parse_addMerge_of_lists title, fun hl => ?_⟩
  constructor
  · intro heq
    refine Classical.byContradiction fun hn => ?_
    obtain ⟨hb, ht⟩ := not_or.mp hn
    have hb : isBlank title = true := by simpa using hb
    have ht : lists t sectionName number = false := by simpa using ht
    have honce := entriesAt_addMerge_of_isBlank hs hl hb ht
    have hfresh : lists once sectionName number = false := by
      unfold lists
      rw [honce]
      simpa [lists, Entry.listed] using ht
    have htwice := entriesAt_addMerge_of_isBlank hs hl hb hfresh
    rw [heq] at htwice
    simpa using congrArg List.length htwice
  · rintro (hb | ht)
    · exact parse_addMerge_of_lists title (lists_addMerge t number hs hl hb)
    · refine parse_addMerge_of_lists title ?_
      unfold lists
      rw [parse_addMerge_of_lists title ht]
      exact ht

/-- A title after spaces, in a section where a pull request without a title was entered. -/
theorem addMerge_twice_spaced :
    let once := Changelog.addMerge "## HEAD\n\n### Bug Fixes\n\n  * (#7)\n" "Bug Fixes" "  Fix"
      (issueReference 7)
    let twice := Changelog.addMerge once "Bug Fixes" "  Fix" (issueReference 7)
    Changelog.parse twice = Changelog.parse once :=
  ((addMerge_twice_iff _ _ 7 (.inr (by decide +kernel))).2 (by decide)).mpr (.inl (by decide))

/-- **Without a title a pull request is entered again**, so entering it twice differs from entering
it once. -/
theorem addMerge_twice_untitled :
    let once := Changelog.addMerge [] noSection [] (issueReference 1)
    let twice := Changelog.addMerge once noSection [] (issueReference 1)
    Changelog.parse twice ≠ Changelog.parse once := by
  decide +kernel

/-- In a title on several lines the first may end in a reference of its own. -/
example :
    let once := Changelog.addMerge [] noSection "Redo (#1)\nit" (issueReference 2)
    let twice := Changelog.addMerge once noSection "Redo (#1)\nit" (issueReference 2)
    Changelog.parse twice ≠ Changelog.parse once := by
  decide +kernel

end Merge

end MergeScribe
