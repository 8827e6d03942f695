import MergeScribe.GitHub.Interface

/-!
# GitHub in memory

A store that answers requests by itself: what it holds is a value, failures come from scripts, and
other people's writes of a file land right before ours. A file's sha names its revision, so a write
goes through only if nothing was written since the file was read.
-/

namespace MergeScribe

/-- A file and how often it was written. -/
structure StoredFile where
  content : Text
  revision : Nat
  deriving DecidableEq, Repr

/-- The sha of a stored file. -/
def StoredFile.sha (f : StoredFile) : Text :=
  "sha-" ++ Text.ofNat f.revision

/-- All that the store holds. -/
structure Memory where
  permissions : List (Text × Permission)
  pullRequests : List PullRequest
  /-- Files by path and branch. -/
  files : List ((Text × Text) × StoredFile)
  milestones : List Milestone
  /-- The milestones that were closed, in the order in which they were. -/
  closed : List Nat
  /-- What the next merges come to, before they come to success. -/
  mergeResults : List MergeResult
  /-- What someone else writes right before our next writes, if anything. -/
  foreignWrites : List (Option Text)
  /-- How the next requests of a kind fail; a gap in the script lets one through. -/
  scripts : Method → List (Option Failure)

namespace Memory

/-- Nothing stored, nothing scripted. -/
def empty : Memory :=
  ⟨[], [], [], [], [], [], [], fun _ => []⟩

/-! ## 1. Keyed lists -/

/-- Store a value under a key, in the place of the one that was there. -/
def put {κ α : Type} [BEq κ] (key : κ) (value : α) : List (κ × α) → List (κ × α)
  | [] => [(key, value)]
  | (k, v) :: more => if k == key then (k, value) :: more else (k, v) :: put key value more

/-- The file at a path of a branch. -/
def file? (m : Memory) (path branch : Text) : Option StoredFile :=
  m.files.lookup (path, branch)

/-- Write a file; its revision is one more than before. -/
def writeFile (m : Memory) (path branch content : Text) : Memory :=
  let revision := ((m.file? path branch).map StoredFile.revision).getD 0 + 1
  { m with files := put (path, branch) ⟨content, revision⟩ m.files }

/-- Remove a file. -/
def removeFile (m : Memory) (path branch : Text) : Memory :=
  { m with files := m.files.filter fun f => f.1 != (path, branch) }

/-- Store a pull request, in the place of the one of the same number. -/
def putPullRequest (m : Memory) (pr : PullRequest) : Memory :=
  if m.pullRequests.any fun p => p.number == pr.number then
    { m with
      pullRequests := m.pullRequests.map fun p => if p.number == pr.number then pr else p }
  else { m with pullRequests := m.pullRequests ++ [pr] }

/-- Put one more entry into the script of a kind of request. -/
def script (m : Memory) (method : Method) (entry : Option Failure) : Memory :=
  { m with
    scripts := fun other =>
      if other = method then m.scripts other ++ [entry] else m.scripts other }

/-! ## 2. Requests -/

/-- The failure that the script has for the next request of a kind, and the store after that. -/
def nextFailure (m : Memory) (method : Method) : Option Failure × Memory :=
  match m.scripts method with
  | [] => (none, m)
  | entry :: more =>
    (entry, { m with
      scripts := fun other => if other = method then more else m.scripts other })

/-- Let the next write of someone else land on a file, if there is one to come. -/
def foreignWrite (m : Memory) (path branch : Text) : Memory :=
  match m.foreignWrites with
  | [] => m
  | none :: more => { m with foreignWrites := more }
  | some content :: more => { m with foreignWrites := more }.writeFile path branch content

/-- Write a file if it still has the expected sha. -/
def guardedWrite (m : Memory) (update : FileUpdate) : Except Failure Text × Memory :=
  if (m.file? update.path update.branch).map StoredFile.sha = update.expectedSha then
    let m := m.writeFile update.path update.branch update.content
    (.ok (((m.file? update.path update.branch).map StoredFile.sha).getD []), m)
  else (.error (.ofCause (.conflict update.path update.expectedSha)), m)

/-- Answer a request that no script makes fail. -/
def perform (m : Memory) : (o : Operation) → Except Failure o.Result × Memory
  | .fetchPullRequest number =>
    match m.pullRequests.find? fun p => p.number == number with
    | some pr => (.ok pr, m)
    | none =>
      (.error (.ofCause (.other ("Not Found: pull request #" ++ Text.ofNat number))), m)
  | .mergePullRequest number _ _ _ =>
    match m.mergeResults with
    | result :: more => (.ok result, { m with mergeResults := more })
    | [] =>
      (.ok ⟨true, some ("merge-" ++ Text.ofNat number),
        some "Pull Request successfully merged"⟩, m)
  | .deleteBranch _ => (.ok (), m)
  | .addLabels _ _ => (.ok (), m)
  | .fetchFile path branch => (.ok ((m.file? path branch).map fun f => ⟨f.content, f.sha⟩), m)
  | .updateFile update => (m.foreignWrite update.path update.branch).guardedWrite update
  | .fetchPermission login => (.ok ((m.permissions.lookup login).getD .none), m)
  | .createRelease _ => (.ok (), m)
  | .fetchOpenMilestones =>
    (.ok (m.milestones.filter fun milestone => !m.closed.contains milestone.number), m)
  | .closeMilestone number => (.ok (), { m with closed := m.closed ++ [number] })

/-- Answer a request. -/
def respond : Program.Responder GitHub Memory :=
  fun c m =>
    match m.nextFailure c.operation.method with
    | (some failure, m) => (.error failure, m)
    | (none, m) => m.perform c.operation

end Memory

end MergeScribe
