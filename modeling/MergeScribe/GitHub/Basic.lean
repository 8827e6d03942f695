import MergeScribe.Config.Basic
import MergeScribe.Text.Quoted

/-!
# What GitHub keeps

Pull requests, files, permissions, releases and milestones, as far as the handlers need them, and
the ways a request for them can fail.
-/

namespace MergeScribe

/-! ## 1. Things on GitHub -/

/-- A repository by its owner and its name. -/
structure RepositoryId where
  owner : Text
  name : Text
  deriving DecidableEq, Repr

/-- The owner and the name with a slash between them. -/
def RepositoryId.fullName (r : RepositoryId) : Text :=
  r.owner ++ "/" ++ r.name

/-- A pull request. The owner of its head is missing when that repository is gone. -/
structure PullRequest where
  number : Nat
  title : Text
  headBranch : Text
  headOwner : Option Text
  baseBranch : Text
  url : Text
  deriving DecidableEq, Repr

/-- What came of a merge. -/
structure MergeResult where
  merged : Bool
  sha : Option Text
  message : Option Text
  deriving DecidableEq, Repr

/-- A file and the sha that names its content. -/
structure FileContent where
  content : Text
  sha : Text
  deriving DecidableEq, Repr

/-- A write of a file that goes through only while the file has the expected sha; without one, only
while there is no file. -/
structure FileUpdate where
  path : Text
  branch : Text
  content : Text
  expectedSha : Option Text
  message : Text
  committer : Identity
  deriving DecidableEq, Repr

/-- A release to publish. -/
structure NewRelease where
  tag : Text
  name : Text
  body : Text
  prerelease : Bool
  deriving DecidableEq, Repr

/-- A milestone. -/
structure Milestone where
  number : Nat
  title : Text
  deriving DecidableEq, Repr

/-! ## 2. Permissions -/

/-- What a user may do with a repository, from nothing to everything. -/
inductive Permission where
  | none
  | read
  | triage
  | write
  | maintain
  | admin
  deriving DecidableEq, Repr

namespace Permission

/-- The level that GitHub calls by a name, in any case. Some levels have an older name too; what is
not known gives no permission. -/
def ofName (name : Text) : Permission :=
  let name := Text.lower name
  if name = "admin" then .admin
  else if name = "maintain" then .maintain
  else if name = "write" ∨ name = "push" then .write
  else if name = "triage" then .triage
  else if name = "read" ∨ name = "pull" then .read
  else .none

/-- The name of a level. -/
def name : Permission → Text
  | .none => "none"
  | .read => "read"
  | .triage => "triage"
  | .write => "write"
  | .maintain => "maintain"
  | .admin => "admin"

/-- Whether the level allows to push, and so to merge. -/
def canPush : Permission → Bool
  | .write | .maintain | .admin => true
  | _ => false

end Permission

/-! ## 3. Failures -/

/-- What lies at the bottom of a failed request. -/
inductive Cause where
  /-- The file changed since it was read. -/
  | conflict (path : Text) (expectedSha : Option Text)
  /-- GitHub answered with an error. -/
  | refused (status : Nat) (message : Text)
  /-- The request could not be made, or its answer could not be understood. -/
  | unanswered
  | other (message : Text)
  deriving DecidableEq, Repr

/-- What there is to say about a cause. -/
def Cause.message : Cause → Text
  | .conflict path expected =>
    path ++ " changed since it was read (expected sha " ++ Text.quotedOption expected ++ ")"
  | .refused _ message => message
  | .unanswered => "no usable answer"
  | .other message => message

/-- A failed request: its cause, and what was being done, outermost first. -/
structure Failure where
  context : List Text
  cause : Cause
  deriving DecidableEq, Repr

namespace Failure

/-- A failure with nothing around its cause. -/
def ofCause (cause : Cause) : Failure :=
  ⟨[], cause⟩

/-- Whether the file changed since it was read. -/
def isConflict (f : Failure) : Bool :=
  match f.cause with
  | .conflict _ _ => true
  | _ => false

/-- The whole story, outermost first. -/
def describe (f : Failure) : Text :=
  Text.joined ": " (f.context ++ [f.cause.message])

end Failure

end MergeScribe
