import MergeScribe.Handler.Outcome
import MergeScribe.Event

/-!
# Merging on command

A comment with a merge directive on a pull request, by someone who may push, merges it. Three steps
follow, each with an outcome of its own: the branch is deleted, labels are added, and the change is
entered in the changelog. The changelog is written only if it is still the one that was read; if it
is not, it is read and written again, a limited number of times.
-/

namespace MergeScribe

/-- What became of a merge and of the steps after it. -/
structure MergeReport where
  /-- The pull request with its repository, as `owner/name#number`. -/
  reference : Text
  sectionName : Text
  deleteBranch : StepOutcome
  labels : StepOutcome
  history : StepOutcome
  deriving DecidableEq, Repr

/-- Whether a step failed. -/
def MergeReport.hasFailures (r : MergeReport) : Bool :=
  r.deleteBranch.isFailed || r.labels.isFailed || r.history.isFailed

namespace Merge

/-! ## 1. Deleting the branch -/

/-- Why the branch of a merged pull request has to stay, if it has to: it is in another
repository, or it is a branch that always stays. -/
def keepReason? (pr : PullRequest) (owner defaultBranch pagesBranch : Text) : Option Text :=
  if pr.headOwner ≠ some owner then some "head branch is in a fork"
  else if pr.headBranch = defaultBranch then some (pr.headBranch ++ " is the default branch")
  else if pr.headBranch = pagesBranch then some (pr.headBranch ++ " is the pages branch")
  else none

/-- Delete the branch of a merged pull request, unless it has to stay. -/
def deleteBranch (config : Config) (r : RepositoryId) (pr : PullRequest) (defaultBranch : Text) :
    Program GitHub StepOutcome :=
  match keepReason? pr r.owner defaultBranch config.merge.pagesBranch with
  | some reason => return .skipped reason
  | none => do
    match ← GitHub.call r (.deleteBranch pr.headBranch) with
    | .ok _ => return .done
    | .error failure =>
      return .failed ("error deleting branch " ++ pr.headBranch ++ ": " ++ failure.describe)

/-! ## 2. Labels -/

/-- Add the labels of the section that the change is filed under. -/
def applyLabels (config : Config) (r : RepositoryId) (number : Nat) (sectionName : Text) :
    Program GitHub StepOutcome :=
  match Category.labelsOfSection config.categories sectionName with
  | [] => return .skipped ("no labels for section '" ++ sectionName ++ "'")
  | labels => do
    match ← GitHub.call r (.addLabels number labels) with
    | .ok _ => return .done
    | .error failure => return .failed ("error applying labels: " ++ failure.describe)

/-! ## 3. The changelog -/

/-- How a changelog entry refers to an issue. -/
def issueReference (number : Nat) : Text :=
  '#' :: Text.ofNat number

/-- The write that enters a pull request in the changelog that was read, unless it is entered there
already. -/
def historyUpdate? (config : Config) (pr : PullRequest) (sectionName : Text)
    (current : Option FileContent) : Option FileUpdate :=
  let text := (current.map FileContent.content).getD []
  match (Changelog.parse text).insertMerge sectionName pr.title (issueReference pr.number) with
  | (false, _) => none
  | (true, changed) => some {
      path := config.history.path
      branch := config.history.branch
      content := changed.render
      expectedSha := current.map FileContent.sha
      message :=
        "Update history to reflect merge of " ++ issueReference pr.number ++ " [ci skip]"
      committer := config.committer }

/-- How often the update of the changelog is tried: at least once. -/
def attempts (config : Config) : Nat :=
  max config.history.maxAttempts 1

/-- Read the changelog, enter the change and write it; read again if the write met a change by
someone else. The number bounds the attempts that are left. -/
def updateHistory (config : Config) (r : RepositoryId) (pr : PullRequest) (sectionName : Text) :
    Nat → Program GitHub StepOutcome
  | 0 =>
    return .failed (config.history.path ++ " kept changing, gave up after " ++
      Text.ofNat (attempts config) ++ " attempts")
  | left + 1 => do
    match ← GitHub.call r (.fetchFile config.history.path config.history.branch) with
    | .error failure =>
      return .failed ("error getting " ++ config.history.path ++ ": " ++ failure.describe)
    | .ok current =>
      match historyUpdate? config pr sectionName current with
      | none =>
        return .skipped (config.history.path ++ " already lists " ++ issueReference pr.number)
      | some update =>
        match ← GitHub.call r (.updateFile update) with
        | .ok _ => return .done
        | .error failure =>
          if failure.isConflict then updateHistory config r pr sectionName left
          else
            return .failed
              ("error committing " ++ config.history.path ++ ": " ++ failure.describe)

/-- Enter a merged pull request in the changelog. -/
def recordHistory (config : Config) (r : RepositoryId) (pr : PullRequest) (sectionName : Text) :
    Program GitHub StepOutcome :=
  updateHistory config r pr sectionName (attempts config)

/-! ## 4. The handler -/

/-- Merge a pull request. An error says why it was not merged. -/
def mergePullRequest (config : Config) (r : RepositoryId) (number : Nat) :
    Program GitHub (Except Text Unit) := do
  let message := "Merge pull request " ++ Text.ofNat number
  match ← GitHub.call r (.mergePullRequest number config.merge.method none (some message)) with
  | .error failure => return .error failure.describe
  | .ok result =>
    if MergeResult.merged result then return .ok ()
    else return .error ((MergeResult.message result).getD "merge was not performed")

/-- The steps after a merge. Without the pull request only the labels can be added. -/
def afterMerge (config : Config) (event : IssueComment) (sectionName : Text) :
    Program GitHub (StepOutcome × StepOutcome × StepOutcome) := do
  let r := event.repository.id
  let defaultBranch := event.repository.defaultBranch.getD config.merge.fallbackBranch
  match ← GitHub.call r (.fetchPullRequest event.number) with
  | .ok pr => do
    let deleted ← deleteBranch config r pr defaultBranch
    let labelled ← applyLabels config r event.number sectionName
    let recorded ← recordHistory config r pr sectionName
    return (deleted, labelled, recorded)
  | .error failure => do
    let failed := StepOutcome.failed ("error getting PR info: " ++ failure.describe)
    let labelled ← applyLabels config r event.number sectionName
    return (failed, labelled, failed)

/-- The pull request that an event is about, with its repository. -/
def eventReference (event : IssueComment) : Text :=
  event.repository.id.fullName ++ issueReference event.number

/-- Merge, and report on the steps that follow. -/
def mergeAndReport (config : Config) (event : IssueComment) (directive : Directive) :
    Program GitHub (Verdict MergeReport) := do
  let sectionName := config.resolveSection directive event.labels
  match ← mergePullRequest config event.repository.id event.number with
  | .error message => return .error (.merge (eventReference event) message)
  | .ok () => do
    let (deleted, labelled, recorded) ← afterMerge config event sectionName
    return .ok (.handled ⟨eventReference event, sectionName, deleted, labelled, recorded⟩)

/-- Handle a comment. A permission that cannot be looked up counts as none. -/
def handle (config : Config) (event : IssueComment) : Program GitHub (Verdict MergeReport) :=
  match Directive.find? event.body with
  | none => return .ok (.notApplicable "not a merge request comment")
  | some directive =>
    if event.isPullRequest then do
      match ← GitHub.hasPushAccess event.repository.id event.login with
      | .ok true => mergeAndReport config event directive
      | _ => return .error (.unauthorized event.login event.repository.id.fullName)
    else return .ok (.notApplicable "not a pull request")

end Merge

end MergeScribe
