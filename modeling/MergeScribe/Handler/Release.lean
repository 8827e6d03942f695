import MergeScribe.Handler.Outcome
import MergeScribe.Event

/-!
# Publishing a release

When a tag for a version is made, the entries of that version become the notes of a release. The
tag of a prerelease is made from what is not released yet, so its notes are those of `HEAD`.
-/

namespace MergeScribe

/-- What a release is announced with, and the changelog version it comes from. -/
structure ReleaseNotes where
  tag : Text
  version : Text
  body : Text
  prerelease : Bool
  deriving DecidableEq, Repr

namespace ReleaseNotes

/-- The version of an id; its heading may put a `v` in front. -/
def find? (c : Changelog) (id : Text) : Option Version :=
  match c.version? id with
  | some v => some v
  | none => c.version? ('v' :: id)

/-- The id of the version whose notes a release gets. -/
def source (version : Text) : Text :=
  if VersionId.isPrerelease version then Version.head else version

/-- The notes that a tag gets from a changelog. The path only names the changelog in errors. -/
def ofTag (c : Changelog) (tag path : Text) : Except HandlerError ReleaseNotes :=
  match VersionId.ofTag? tag with
  | none => .error (.notAVersionTag tag)
  | some version =>
    match find? c (source version) with
    | none => .error (.versionMissing (source version) path)
    | some entry => .ok ⟨tag, entry.id, entry.body, VersionId.isPrerelease version⟩

/-- The release to publish. It is named for its tag. -/
def toRelease (notes : ReleaseNotes) : NewRelease :=
  ⟨notes.tag, notes.tag, notes.body, notes.prerelease⟩

end ReleaseNotes

namespace Release

/-- Handle a branch or tag that was made. -/
def handle (config : Config) (event : RefCreation) : Program GitHub (Verdict ReleaseNotes) :=
  if event.refType ≠ "tag" then return .ok (.notApplicable "not a tag create event")
  else if (VersionId.ofTag? event.ref).isNone then
    return .ok (.notApplicable ("not a version tag (" ++ event.ref ++ ")"))
  else do
    let r := event.repository.id
    let path := config.history.path
    match ← GitHub.call r (.fetchFile path config.history.branch) with
    | .error failure =>
      return .error (.client ("error getting " ++ path ++ ": " ++ failure.describe))
    | .ok file =>
      let text := (Option.map FileContent.content file).getD []
      match ReleaseNotes.ofTag (Changelog.parse text) event.ref path with
      | .error problem => return .error problem
      | .ok notes =>
        match ← GitHub.call r (.createRelease notes.toRelease) with
        | .error failure => return .error (.release event.ref failure.describe)
        | .ok _ => return .ok (.handled notes)

end Release

end MergeScribe
