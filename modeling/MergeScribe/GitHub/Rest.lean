import MergeScribe.Config.Codec
import MergeScribe.GitHub.Interface
import MergeScribe.GitHub.Response
import MergeScribe.Http.Uri

/-!
# GitHub over HTTP

Each request of the interface is carried out by calls of the client library for GitHub's REST
service: a route, a body, and what the response has to hold. A response that reports an error must
say so in GitHub's way to count as GitHub's answer. `GitHub.overHttp` carries out one request, so
that `Program.interpret GitHub.overHttp` makes a program over `Http` of a handler over `GitHub`.
-/

namespace MergeScribe

namespace Rest

/-! ## 1. Asking -/

/-- A failure of the exchange itself: there is no response, or none that could be read. -/
def unanswered : Failure :=
  .ofCause .unanswered

/-- What a response that reports an error means. -/
def refusal (response : HttpResponse) : Failure :=
  match (Json.parse? response.body).bind GitHub.errorMessage? with
  | some message => .ofCause (.refused response.status message)
  | none => unanswered

/-- Hand a request for a route to the client library, once; the route must be well-formed. Answers
the successful response. Whether the library sends it more than once is no part of this. -/
def send (method route : Text) (body : Option Json) :
    Program Http (Except Failure HttpResponse) :=
  match Uri.ofRoute? route with
  | none => return .error unanswered
  | some uri => do
    match ← Program.request (I := Http) ⟨method, uri, body⟩ with
    | none => return .error unanswered
    | some response =>
      if HttpResponse.isSuccess response then return .ok response
      else return .error (refusal response)

/-- Send a request and read the response's body. -/
def exchangeBy {α : Type} (method route : Text) (body : Option Json) (read : Text → Option α) :
    Program Http (Except Failure α) := do
  match ← send method route body with
  | .error failure => return .error failure
  | .ok response =>
    match read (HttpResponse.body response) with
    | some value => return .ok value
    | none => return .error unanswered

/-- Send a request and read the first value of the response's body. -/
def exchange {α : Type} (method route : Text) (body : Option Json) (decode : Json → Option α) :
    Program Http (Except Failure α) :=
  exchangeBy method route body (GitHub.firstValue? decode)

/-- The route of something in a repository. -/
def route (r : RepositoryId) (rest : Text) : Text :=
  "/repos/" ++ r.owner ++ "/" ++ r.name ++ rest

/-! ## 2. Files -/

/-- Read a file. A file that does not exist is no failure. -/
def fetchFile (r : RepositoryId) (path branch : Text) :
    Program Http (Except Failure (Option FileContent)) := do
  let asked := Uri.withQuery (route r ("/contents/" ++ path)) [("ref", branch)]
  match ← exchangeBy "GET" asked none (GitHub.wholeValue? GitHub.files?) with
  | .error failure =>
    match Failure.cause failure with
    | .refused 404 _ => return .ok none
    | _ => return .error failure
  | .ok [] => return .error (.ofCause (.other (path ++ " is not a file")))
  | .ok ((_, none) :: _) => return .error (.ofCause (.other (path ++ " has no inline content")))
  | .ok ((sha, some content) :: _) =>
    match GitHub.fileText? content with
    | some text => return .ok (some ⟨text, sha⟩)
    | none => return .error unanswered

/-- The body of an update of a file. -/
def updateBody (u : FileUpdate) : Json :=
  let sha : List (Text × Json) :=
    match u.expectedSha with
    | some sha => [("sha", .string sha)]
    | none => []
  .object (("message", .string u.message)
    :: ("content", .string (Base64.encode (Text.toBytes u.content)))
    :: ("branch", .string u.branch) :: ("committer", u.committer.toJson) :: sha)

/-- Whether an update was refused because the file is not the expected one: GitHub reports a stale
sha as 409, and a file that should not have been there as 422. -/
def isStale (status : Nat) (creating : Bool) : Bool :=
  status == 409 || (status == 422 && creating)

/-- Write a file if it still has the expected sha. -/
def updateFile (r : RepositoryId) (u : FileUpdate) : Program Http (Except Failure Text) := do
  let asked := route r ("/contents/" ++ u.path)
  match ← exchange "PUT" asked (some (updateBody u)) GitHub.updatedSha? with
  | .ok (some sha) => return .ok sha
  | .ok none =>
    return .error (.ofCause (.other ("No content sha in update response for " ++ u.path)))
  | .error failure =>
    match Failure.cause failure with
    | .refused status _ =>
      if isStale status u.expectedSha.isNone then
        return .error (.ofCause (.conflict u.path u.expectedSha))
      else return .error failure
    | _ => return .error failure

/-! ## 3. Milestones -/

/-- How many milestones a page holds. Only the last page holds fewer. -/
def pageSize : Nat := 100

/-- The route of a page of open milestones. -/
def milestonesRoute (r : RepositoryId) (page : Nat) : Text :=
  Uri.withQuery (route r "/milestones")
    [("state", "open"), ("per_page", Text.ofNat pageSize), ("page", Text.ofNat page)]

/-- Read the pages from the given one on, until a page is not full. The number bounds the pages. -/
def milestonesFrom (r : RepositoryId) (page : Nat) :
    Nat → Program Http (Except Failure (List Milestone))
  | 0 => return .error unanswered
  | left + 1 => do
    match ← exchange "GET" (milestonesRoute r page) none (Json.list? GitHub.milestone?) with
    | .error failure => return .error failure
    | .ok batch =>
      if List.length batch < pageSize then return .ok batch
      else
        match ← milestonesFrom r (page + 1) left with
        | .error failure => return .error failure
        | .ok more => return .ok (batch ++ more)

/-- How many pages can be asked for: page numbers have 32 bits and start with one. -/
def maxPages : Nat := Nat.pow 2 32 - 1

/-! ## 4. The other requests -/

/-- The fields of a record that are there. -/
def someFields (fields : List (Text × Option Text)) : List (Text × Json) :=
  fields.filterMap fun field => field.2.map fun value => (field.1, .string value)

/-- The body of a merge. -/
def mergeBody (method : MergeMethod) (title message : Option Text) : Json :=
  .object (someFields
    [("commit_title", title), ("commit_message", message), ("merge_method", some method.name)])

/-- The body of a release, which is published at once. -/
def releaseBody (release : NewRelease) : Json :=
  .object [("tag_name", .string release.tag), ("name", .string release.name),
    ("body", .string release.body), ("draft", .bool false),
    ("prerelease", .bool release.prerelease)]

/-- Delete a branch. What the response holds does not count. -/
def deleteBranch (r : RepositoryId) (branch : Text) : Program Http (Except Failure Unit) := do
  match ← send "DELETE" (route r ("/git/refs/heads/" ++ branch)) none with
  | .error failure => return .error failure
  | .ok _ => return .ok ()

/-- Carry out a request. -/
def perform (r : RepositoryId) : (o : Operation) → Program Http (Except Failure o.Result)
  | .fetchPullRequest number =>
    exchange "GET" (route r ("/pulls/" ++ Text.ofNat number)) none GitHub.pullRequest?
  | .mergePullRequest number method title message =>
    exchange "PUT" (route r ("/pulls/" ++ Text.ofNat number ++ "/merge"))
      (some (mergeBody method title message)) GitHub.mergeResult?
  | .deleteBranch branch => deleteBranch r branch
  | .addLabels number labels =>
    exchange "POST" (route r ("/issues/" ++ Text.ofNat number ++ "/labels"))
      (some (.object [("labels", Json.ofList .string labels)])) GitHub.labels?
  | .fetchFile path branch => fetchFile r path branch
  | .updateFile update => updateFile r update
  | .fetchPermission login =>
    exchange "GET" (route r ("/collaborators/" ++ login ++ "/permission")) none GitHub.permission?
  | .createRelease release =>
    exchange "POST" (route r "/releases") (some (releaseBody release)) GitHub.release?
  | .fetchOpenMilestones => milestonesFrom r 1 maxPages
  | .closeMilestone number =>
    exchange "PATCH" (route r ("/milestones/" ++ Text.ofNat number))
      (some (.object [("state", .string "closed")])) GitHub.anything?

end Rest

/-- GitHub, carried out over HTTP. -/
def GitHub.overHttp (c : GitHubCall) : Program Http (Except Failure c.operation.Result) :=
  Rest.perform c.repository c.operation

end MergeScribe
