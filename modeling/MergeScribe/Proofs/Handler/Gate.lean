import MergeScribe.Proofs.Handler.Course

/-!
# The gates before a merge

A comment goes through two gates. Behind the first, the permission of its author, stands the merge,
and behind the second, the success of the merge, stand the steps that follow. Main statement: nothing
is asked before its gate is passed, and the verdict says at which gate the handler stopped, whatever
it is answered (`handle_gated`).
-/

namespace MergeScribe

open Program

/-- What may be null is given if it is not. -/
theorem Json.isSome_iff_of_nullable? {α : Type} {decode : Json → Option α} {j : Json}
    {value : Option α} (h : nullable? decode j = some value) :
    value.isSome = true ↔ j ≠ .null := by
  unfold nullable? at h
  split at h
  · cases h
    simp
  · rename_i hj
    obtain ⟨a, -, rfl⟩ := Option.map_eq_some_iff.mp h
    simpa using hj

/-- An issue is a pull request if it has links to one that are not null. -/
theorem issueOfJson?_isPullRequest {j : Json} {fields : Json.Fields} {number : Nat}
    {isPullRequest : Bool} {labels : List Text}
    (hf : Json.record? ["number", "pull_request", "labels"] j = some fields)
    (h : issueOfJson? j = some (number, isPullRequest, labels)) :
    isPullRequest = true ↔ ∃ links : Json,
      fields.given.lookup ("pull_request" : Text) = some links ∧ links ≠ .null := by
  unfold issueOfJson? at h
  rw [hf] at h
  obtain ⟨fields', hf', h⟩ := Option.bind_eq_some_iff.mp h
  cases hf'
  obtain ⟨n, -, h⟩ := Option.bind_eq_some_iff.mp h
  obtain ⟨links, hl, h⟩ := Option.bind_eq_some_iff.mp h
  obtain ⟨names, -, h⟩ := Option.bind_eq_some_iff.mp h
  cases h
  unfold Json.Fields.withDefault at hl
  split at hl
  · rename_i given hg
    rw [hg, Json.isSome_iff_of_nullable? hl]
    simp
  · rename_i hg
    cases hl
    rw [hg]
    simp

namespace Merge

/-- **Nothing is asked before its gate is passed.** Of a comment that does not ask for a merge nothing
comes. Otherwise the permission of its author is asked for first, and nothing more unless it is
enough; then the merge is asked for, once; and the steps after it ask for nothing unless it was
carried out. The verdict is that the author is not authorized, that the merge failed, or a report,
just as the handler stopped at the first gate, at the second one or not at all, whatever the
steps after the merge are answered. -/
theorem handle_gated {σ : Type} (respond : Responder GitHub σ) (config : Config)
    (event : IssueComment) (s : σ) :
    let exchanges := (handle config event).transcript respond s
    let verdict := ((handle config event).run respond s).1
    (event.asksForMerge = false →
      exchanges = [] ∧ ∃ reason, verdict = .ok (.notApplicable reason)) ∧
    (event.asksForMerge = true → ∃ permission rest,
      exchanges = .permission event permission :: rest ∧
      (¬ Permits permission → rest = []) ∧
      ((∃ login repository, verdict = .error (.unauthorized login repository)) ↔
        ¬ Permits permission) ∧
      (Permits permission → ∃ merge more,
        rest = .merge config event merge :: more ∧
        (∀ x ∈ more, OfKind followUps x.call) ∧
        (¬ Merges merge → more = []) ∧
        ((∃ reference message, verdict = .error (.merge reference message)) ↔ ¬ Merges merge) ∧
        ((∃ report, verdict = .ok (.handled report)) ↔ Merges merge))) := by
  intro exchanges verdict
  have course := handle_course respond config event s
  generalize ((handle config event).run respond s).2 = s' at course
  change Course respond config event s exchanges verdict s' at course
  clear_value exchanges verdict
  cases course with
  | passedOver h => simp [h]
  | turnedDown h asked low =>
      refine ⟨by simp [h], fun _ => ⟨_, [], rfl, fun _ => rfl, ?_, fun enough => absurd enough low⟩⟩
      simp [low, turnedDown]
  | unmerged h asked enough tried failed =>
      refine ⟨by simp [h], fun _ => ⟨_, _, rfl, fun low => absurd enough low, ?_, fun _ =>
        ⟨_, [], rfl, by simp, fun _ => rfl, ?_, ?_⟩⟩⟩
      · simp [enough, unmerged]
      · simp [failed, unmerged]
      · simp [failed, unmerged]
  | merged found onPull filed asked enough tried went goesOn =>
      refine ⟨?_, fun _ => ⟨_, _, rfl, fun low => absurd enough low, ?_, fun _ =>
        ⟨_, _, rfl, ?_, fun failed => absurd went failed, ?_, ?_⟩⟩⟩
      · simp [(asksForMerge_iff event).mpr ⟨_, found, onPull⟩]
      · simp [enough, reported]
      · intro x hx
        subst goesOn
        exact (only_afterMerge ..).of_mem_transcript respond hx
      · simp [went, reported]
      · simp [went, reported]

end Merge

end MergeScribe
