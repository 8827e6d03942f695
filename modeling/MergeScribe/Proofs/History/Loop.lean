import MergeScribe.Handler.Merge

/-!
# The update of the changelog, question by question

The loop that enters a change in the changelog asks for the file, and, unless the change is entered
already, it asks to write the file. Here it is taken apart into what follows each answer. Main
statements: the write that the loop asks for is that of the file it read with the change entered
(`historyUpdate?_eq`), and the loop asks for the file first (`updateHistory_succ`).
-/

namespace MergeScribe

namespace Merge

variable (config : Config) (r : RepositoryId) (pr : PullRequest) (sectionName : Text)

/-! ## 1. The write -/

/-- A pull request is referred to as a changelog takes it. -/
theorem isReference_issueReference (number : Nat) : isReference (issueReference number) = true := by
  have hne : Text.ofNat number ≠ [] := Nat.toDigits_ne_nil
  have hd : (Text.ofNat number).all Text.isDigit = true :=
    List.all_eq_true.mpr fun c hc =>
      Text.isDigit_of_ascii (Nat.isDigit_of_mem_toDigits (by decide) (by decide) hc)
  show (!(Text.ofNat number).isEmpty && (Text.ofNat number).all Text.isDigit) = true
  rw [hd, Bool.and_true]
  simpa using hne

/-- The text of a file. A file that is missing has none. -/
def textOf (current : Option FileContent) : Text :=
  (current.map FileContent.content).getD []

/-- Whether a file lists a pull request in a section. -/
def lists (text sectionName : Text) (number : Nat) : Bool :=
  Entry.listed ((Changelog.parse text).entriesAt Version.head (Place.ofSection sectionName))
    (some (issueReference number))

/-- The write of a file with a change entered, for as long as it is the file that was read. -/
def entering (current : Option FileContent) : FileUpdate where
  path := config.history.path
  branch := config.history.branch
  content := Changelog.addMerge (textOf current) sectionName pr.title (issueReference pr.number)
  expectedSha := current.map FileContent.sha
  message := "Update history to reflect merge of " ++ issueReference pr.number ++ " [ci skip]"
  committer := config.committer

theorem insertMerge_fst (t title : Text) (number : Nat) :
    ((Changelog.parse t).insertMerge sectionName title (issueReference number)).1 =
      !lists t sectionName number := by
  unfold Changelog.insertMerge Changelog.append
  show (if lists t sectionName number = true then _ else _ : Bool × Changelog).1 = _
  cases lists t sectionName number <;> rfl

/-- **The write enters the change in what was read, unless that lists it.** -/
theorem historyUpdate?_eq (current : Option FileContent) :
    historyUpdate? config pr sectionName current =
      if lists (textOf current) sectionName pr.number then none
      else some (entering config pr sectionName current) := by
  have hi := insertMerge_fst sectionName (textOf current) pr.title pr.number
  unfold historyUpdate? entering
  rcases he : (Changelog.parse (textOf current)).insertMerge sectionName pr.title
    (issueReference pr.number) with ⟨inserted, changed⟩
  have hc : Changelog.addMerge (textOf current) sectionName pr.title (issueReference pr.number) =
      changed.render := by
    unfold Changelog.addMerge
    rw [he]
  rw [he] at hi
  unfold textOf at he
  simp only [he]
  cases inserted with
  | false =>
      have hl : lists (textOf current) sectionName pr.number = true := by simpa using hi.symm
      rw [hl]
      rfl
  | true =>
      have hl : lists (textOf current) sectionName pr.number = false := by simpa using hi.symm
      rw [hl, hc]
      rfl

/-! ## 2. Outcomes -/

/-- Every attempt met a change by someone else. -/
def keptChanging : StepOutcome :=
  .failed (config.history.path ++ " kept changing, gave up after " ++
    Text.ofNat (attempts config) ++ " attempts")

def unread (failure : Failure) : StepOutcome :=
  .failed ("error getting " ++ config.history.path ++ ": " ++ failure.describe)

def alreadyListed : StepOutcome :=
  .skipped (config.history.path ++ " already lists " ++ issueReference pr.number)

def refused (failure : Failure) : StepOutcome :=
  .failed ("error committing " ++ config.history.path ++ ": " ++ failure.describe)

/-! ## 3. What follows each answer -/

/-- What follows the answer to a write. -/
def afterUpdate (left : Nat) : Except Failure Text → Program GitHub StepOutcome
  | .ok _ => .done .done
  | .error failure =>
    if failure.isConflict then updateHistory config r pr sectionName left
    else .done (refused config failure)

/-- What follows the answer to a read. -/
def afterFetch (left : Nat) : Except Failure (Option FileContent) → Program GitHub StepOutcome
  | .error failure => .done (unread config failure)
  | .ok current =>
    if lists (textOf current) sectionName pr.number then .done (alreadyListed config pr)
    else .ask ⟨r, .updateFile (entering config pr sectionName current)⟩
      (afterUpdate config r pr sectionName left)

/-- **The loop asks for the file first.** -/
theorem updateHistory_succ (left : Nat) :
    updateHistory config r pr sectionName (left + 1) =
      .ask ⟨r, .fetchFile config.history.path config.history.branch⟩
        (afterFetch config r pr sectionName left) := by
  rw [updateHistory]
  refine congrArg (Program.ask _) (funext fun answer => ?_)
  cases answer with
  | error failure => rfl
  | ok current =>
      have he := historyUpdate?_eq config pr sectionName current
      simp only [Program.bind, afterFetch]
      rw [he]
      cases lists (textOf current) sectionName pr.number with
      | true => rfl
      | false =>
          refine congrArg (Program.ask _) (funext fun answer => ?_)
          cases answer with
          | ok sha => rfl
          | error failure => rfl

end Merge

end MergeScribe
