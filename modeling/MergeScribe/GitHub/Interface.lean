import MergeScribe.GitHub.Basic
import MergeScribe.Program

/-!
# Asking GitHub

The requests that handlers make, each with the kind of result it has. A handler is a program over
this interface, whoever answers: a store in memory, or GitHub itself.
-/

namespace MergeScribe

/-- A request about a repository. -/
inductive Operation where
  | fetchPullRequest (number : Nat)
  | mergePullRequest (number : Nat) (method : MergeMethod) (title message : Option Text)
  | deleteBranch (branch : Text)
  | addLabels (number : Nat) (labels : List Text)
  | fetchFile (path branch : Text)
  | updateFile (update : FileUpdate)
  | fetchPermission (login : Text)
  | createRelease (release : NewRelease)
  | fetchOpenMilestones
  | closeMilestone (number : Nat)
  deriving DecidableEq, Repr

/-- The kinds of request. -/
inductive Method where
  | fetchPullRequest
  | mergePullRequest
  | deleteBranch
  | addLabels
  | fetchFile
  | updateFile
  | fetchPermission
  | createRelease
  | fetchOpenMilestones
  | closeMilestone
  deriving DecidableEq, Repr

namespace Operation

/-- The kind of a request. -/
def method : Operation → Method
  | .fetchPullRequest _ => .fetchPullRequest
  | .mergePullRequest .. => .mergePullRequest
  | .deleteBranch _ => .deleteBranch
  | .addLabels _ _ => .addLabels
  | .fetchFile _ _ => .fetchFile
  | .updateFile _ => .updateFile
  | .fetchPermission _ => .fetchPermission
  | .createRelease _ => .createRelease
  | .fetchOpenMilestones => .fetchOpenMilestones
  | .closeMilestone _ => .closeMilestone

/-- What a request gives when it succeeds. A file that does not exist is no failure. The result of
an update is the new sha. -/
def Result : Operation → Type
  | .fetchPullRequest _ => PullRequest
  | .mergePullRequest .. => MergeResult
  | .deleteBranch _ => Unit
  | .addLabels _ _ => Unit
  | .fetchFile _ _ => Option FileContent
  | .updateFile _ => Text
  | .fetchPermission _ => Permission
  | .createRelease _ => Unit
  | .fetchOpenMilestones => List Milestone
  | .closeMilestone _ => Unit

end Operation

/-- A request and the repository it is about. -/
structure GitHubCall where
  repository : RepositoryId
  operation : Operation
  deriving DecidableEq, Repr

/-- The interface of GitHub: each call succeeds with its result, or fails. -/
def GitHub : Interface where
  Call := GitHubCall
  Answer := fun c => Except Failure c.operation.Result

namespace GitHub

/-- The program that makes one call. -/
def call (r : RepositoryId) (o : Operation) : Program GitHub (Except Failure o.Result) :=
  Program.request (I := GitHub) ⟨r, o⟩

/-- Whether a user may push to a repository. -/
def hasPushAccess (r : RepositoryId) (login : Text) : Program GitHub (Except Failure Bool) := do
  match ← call r (.fetchPermission login) with
  | .ok level => return .ok (Permission.canPush level)
  | .error failure => return .error failure

end GitHub

end MergeScribe
