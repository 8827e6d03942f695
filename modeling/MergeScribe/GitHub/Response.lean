import MergeScribe.GitHub.Basic
import MergeScribe.GitHub.Shape
import MergeScribe.Http.Basic
import MergeScribe.Json.Parser
import MergeScribe.Text.Base64

/-!
# Reading GitHub's answers

What the body of a response has to hold for each request, and what is taken from it. A body is read
up to the end of its first value, except that one with files is read as a whole, so that the last
member of a name counts there. A response that reports an error must say so in GitHub's way.
-/

namespace MergeScribe

namespace GitHub

/-! ## 1. Bodies -/

/-- The first value in a body. -/
def firstValue? {α : Type} (decode : Json → Option α) (body : Text) : Option α :=
  (Json.parsePrefix body).bind fun found => decode found.1

/-- The only value in a body, all of which can be represented. -/
def wholeValue? {α : Type} (decode : Json → Option α) (body : Text) : Option α :=
  ((Json.parse? body).bind (Json.keptInside? 0)).bind fun j => decode j.withoutRepeats

/-! ## 2. Values -/

/-- The message of GitHub's error object. -/
def errorMessage? (j : Json) : Option Text := do
  let fields ← Json.record? ["documentation_url", "errors", "message"] j
  let _ ← fields.optional "documentation_url" Json.text?
  let _ ← fields.optional "errors" (Json.list? (Json.keptInside? 2))
  fields.required "message" Json.text?

/-- The owner of a repository. -/
def owner? (j : Json) : Option (Option Text) := do
  (← read? .repository j).optional "owner" fun user => do
    (← read? .user user).required "login" Json.text?

/-- A branch: its name, and the owner of its repository if both are there. -/
def branch? (j : Json) : Option (Text × Option Text) := do
  let fields ← read? .branch j
  let name ← fields.required "ref" Json.text?
  let owner ← fields.optional "repo" owner?
  return (name, owner.join)

/-- A pull request. -/
def pullRequest? (j : Json) : Option PullRequest := do
  let fields ← fitting? .pullRequest j
  let number ← fields.required "number" Json.nat64?
  let title ← fields.optional "title" Json.text?
  let url ← fields.optional "html_url" fun url => (Json.text? url).bind Url.normalize?
  let (headBranch, headOwner) ← fields.required "head" branch?
  let (baseBranch, _) ← fields.required "base" branch?
  return ⟨number, title.getD [], headBranch, headOwner, baseBranch, url.getD []⟩

/-- What came of a merge. -/
def mergeResult? (j : Json) : Option MergeResult := do
  let fields ← Json.record? ["sha", "message", "merged"] j
  return {
    merged := ← fields.required "merged" Json.bool?
    sha := ← fields.optional "sha" Json.text?
    message := ← fields.optional "message" Json.text? }

/-- Whether a value is a list of labels. -/
def labels? (j : Json) : Option Unit :=
  (Json.list? (fitting? .label) j).map fun _ => ()

/-- A file: its sha, and its content in base 64 if that is there. -/
def file? (j : Json) : Option (Text × Option Text) := do
  let fields ← fitting? .file j
  return (← fields.required "sha" Json.text?, ← fields.optional "content" Json.text?)

/-- One file, or an array of files. -/
def files? : Json → Option (List (Text × Option Text))
  | .array items => items.mapM file?
  | j => (file? j).map fun entry => [entry]

/-- The text of base 64, in which blanks do not count. -/
def fileText? (content : Text) : Option Text :=
  let isBlank (c : Char) : Bool := " \n\t\r\x0b\x0c".toList.contains c
  (Base64.decode? (content.filter fun c => !isBlank c)).map Text.ofBytesLossy

/-- The sha in the answer to an update, if there is one. -/
def updatedSha? (j : Json) : Option (Option Text) := do
  (← Json.record? ["content"] j).optional "content" (Json.single? "sha")

/-- The level in an answer about a permission. -/
def permission? (j : Json) : Option Permission :=
  (Json.single? "permission" j).map Permission.ofName

/-- Whether a value is a release. -/
def release? (j : Json) : Option Unit :=
  (fitting? .release j).map fun _ => ()

/-- A milestone. -/
def milestone? (j : Json) : Option Milestone := do
  let fields ← Json.record? ["number", "title"] j
  return {
    number := ← fields.required "number" Json.nat64?
    title := ← fields.required "title" Json.text? }

/-- Any value, of which only that it is one counts. -/
def anything? (j : Json) : Option Unit :=
  (Json.keptInside? 0 j).map fun _ => ()

end GitHub

end MergeScribe
