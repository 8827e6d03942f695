import MergeScribe.Handler.Outcome
import MergeScribe.Event

/-!
# Closing milestones

When a final release is published, the open milestones that are named like its tag are closed, one
after the other. The first failure ends the run; what was closed before it stays closed.
-/

namespace MergeScribe

namespace Milestone

/-- Close milestones in their order, and answer the numbers of those closed so far and now. -/
def closeAll (r : RepositoryId) (closed : List Nat) :
    List Milestone → Program GitHub (Except HandlerError (List Nat))
  | [] => return .ok closed
  | m :: more => do
    match ← GitHub.call r (.closeMilestone m.number) with
    | .error failure =>
      return .error (.milestone r.fullName
        ("couldn't close milestone " ++ Text.ofNat m.number ++ ": " ++ failure.describe))
    | .ok _ => closeAll r (closed ++ [m.number]) more

/-- Handle something that happened to a release. -/
def handle (event : ReleaseEvent) : Program GitHub (Verdict (List Nat)) :=
  if event.action ≠ "published" then return .ok (.notApplicable "not a published release")
  else if event.prerelease || event.draft then
    return .ok (.notApplicable "a prerelease or draft release")
  else do
    let r := event.repository.id
    match ← GitHub.call r .fetchOpenMilestones with
    | .error failure =>
      return .error (.milestone r.fullName ("couldn't fetch milestones: " ++ failure.describe))
    | .ok milestones =>
      match ← closeAll r [] (List.filter (fun m => m.title == event.tag) milestones) with
      | .error problem => return .error problem
      | .ok closed => return .ok (.handled closed)

end Milestone

end MergeScribe
