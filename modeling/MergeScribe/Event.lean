import MergeScribe.GitHub.Basic
import MergeScribe.Json.Decode
import MergeScribe.Json.Parser

/-!
# Events

What GitHub reports: a comment on an issue, a branch or tag that was made, a release. Of a report
only the fields that the handlers look at are read.
-/

namespace MergeScribe

/-- The repository of an event. -/
structure EventRepository where
  name : Text
  owner : Text
  defaultBranch : Option Text
  deriving DecidableEq, Repr

/-- The repository by its owner and its name. -/
def EventRepository.id (r : EventRepository) : RepositoryId :=
  ⟨r.owner, r.name⟩

/-- A comment on an issue, which may be a pull request. -/
structure IssueComment where
  action : Option Text
  number : Nat
  isPullRequest : Bool
  labels : List Text
  body : Text
  login : Text
  repository : EventRepository
  deriving DecidableEq, Repr

/-- A branch or tag that was made. -/
structure RefCreation where
  ref : Text
  refType : Text
  repository : EventRepository
  deriving DecidableEq, Repr

/-- Something that happened to a release. -/
structure ReleaseEvent where
  action : Text
  tag : Text
  prerelease : Bool
  draft : Bool
  repository : EventRepository
  deriving DecidableEq, Repr

/-! ## 1. Reading -/

/-- The repository of an event. -/
def EventRepository.ofJson? (j : Json) : Option EventRepository := do
  let fields ← Json.record? ["name", "owner", "default_branch"] j
  return {
    name := ← fields.required "name" Json.text?
    owner := ← fields.required "owner" (Json.single? "login")
    defaultBranch := ← fields.withDefault "default_branch" none (Json.nullable? Json.text?) }

/-- The issue of a comment: its number, whether it is a pull request, and its labels. -/
def issueOfJson? (j : Json) : Option (Nat × Bool × List Text) := do
  let fields ← Json.record? ["number", "pull_request", "labels"] j
  let number ← fields.required "number" Json.nat64?
  let links ← fields.withDefault "pull_request" none (Json.nullable? (Json.keptInside? 2))
  let labels ← fields.withDefault "labels" [] (Json.list? (Json.single? "name"))
  return (number, links.isSome, labels)

/-- A comment: its text and the login of its author. -/
def commentOfJson? (j : Json) : Option (Text × Text) := do
  let fields ← Json.record? ["body", "user"] j
  let body ← fields.withDefault "body" [] Json.text?
  let login ← fields.required "user" (Json.single? "login")
  return (body, login)

/-- A report of a comment on an issue. -/
def IssueComment.ofJson? (j : Json) : Option IssueComment := do
  let fields ← Json.record? ["action", "issue", "comment", "repository"] j
  let action ← fields.withDefault "action" none (Json.nullable? Json.text?)
  let (number, isPullRequest, labels) ← fields.required "issue" issueOfJson?
  let (body, login) ← fields.required "comment" commentOfJson?
  let repository ← fields.required "repository" EventRepository.ofJson?
  return ⟨action, number, isPullRequest, labels, body, login, repository⟩

/-- A report of a branch or tag that was made. -/
def RefCreation.ofJson? (j : Json) : Option RefCreation := do
  let fields ← Json.record? ["ref", "ref_type", "repository"] j
  return {
    ref := ← fields.required "ref" Json.text?
    refType := ← fields.required "ref_type" Json.text?
    repository := ← fields.required "repository" EventRepository.ofJson? }

/-- A release: its tag, whether it is a prerelease and whether it is a draft. -/
def releaseOfJson? (j : Json) : Option (Text × Bool × Bool) := do
  let fields ← Json.record? ["tag_name", "prerelease", "draft"] j
  let tag ← fields.required "tag_name" Json.text?
  let prerelease ← fields.withDefault "prerelease" false Json.bool?
  let draft ← fields.withDefault "draft" false Json.bool?
  return (tag, prerelease, draft)

/-- A report of something that happened to a release. -/
def ReleaseEvent.ofJson? (j : Json) : Option ReleaseEvent := do
  let fields ← Json.record? ["action", "release", "repository"] j
  let action ← fields.required "action" Json.text?
  let (tag, prerelease, draft) ← fields.required "release" releaseOfJson?
  let repository ← fields.required "repository" EventRepository.ofJson?
  return ⟨action, tag, prerelease, draft, repository⟩

/-- What to say of a payload that cannot be read. -/
def payloadMessage : Text := "Failed to parse webhook payload"

end MergeScribe
