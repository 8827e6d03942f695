import MergeScribe.Calendar
import MergeScribe.Http.Url
import MergeScribe.Json.Decode

/-!
# The shape of GitHub's records

What GitHub answers is made of records, each with its fields in an order, and a record may hold
others of its own kind. `fieldsOf` tells the fields, and `Shape.fits` whether a value has a shape.
Every field counts, whether it is needed or not: one of the wrong shape spoils the answer.
-/

namespace MergeScribe

open Json (Fields)

namespace GitHub

/-! ## 1. Shapes -/

/-- The kinds of records. -/
inductive RecordKind where
  | user
  | license
  | permissions
  | repository
  | branch
  | label
  | milestone
  | link
  | links
  | team
  | pullRequest
  | fileLinks
  | file
  | uploader
  | asset
  | release
  deriving DecidableEq

/-- What a field may hold. -/
inductive Shape where
  | text
  | flag
  /-- A number from zero up to, and not including, a limit. -/
  | natural (limit : Nat)
  /-- A number of 64 bits with a sign. -/
  | signed
  | address
  /-- A point in time. -/
  | moment
  /-- A point in time, or the seconds up to it. -/
  | momentOrSeconds
  /-- One of these names. -/
  | oneOf (names : List Text)
  | anything
  | list (item : Shape)
  | record (kind : RecordKind)

/-- Whether a field has to be there. What is optional may be `null`, what has a default may not. -/
inductive Presence where
  | required
  | optional
  | defaulted
  deriving DecidableEq

/-- A field of a record. -/
structure Field where
  name : Text
  shape : Shape
  presence : Presence

namespace Field

/-- Fields that have to be there. -/
def required (shape : Shape) (names : List Text) : List Field :=
  names.map fun name => ⟨name, shape, .required⟩

/-- Fields that may be missing. -/
def optional (shape : Shape) (names : List Text) : List Field :=
  names.map fun name => ⟨name, shape, .optional⟩

/-- Fields that have a default. -/
def defaulted (shape : Shape) (names : List Text) : List Field :=
  names.map fun name => ⟨name, shape, .defaulted⟩

end Field

/-- A number of 32 bits. -/
def nat32 : Shape :=
  .natural (Nat.pow 2 32)

/-- A number of 64 bits. -/
def nat64 : Shape :=
  .natural (Nat.pow 2 64)

/-! ## 2. Records -/

open GitHub.Field (required optional defaulted)

/-- The fields that users and uploaders share. -/
def userFields : List Field :=
  required .text ["login"] ++ required nat64 ["id"] ++ required .text ["node_id"]
    ++ required .address ["avatar_url"] ++ required .text ["gravatar_id"]
    ++ required .address
      ["url", "html_url", "followers_url", "following_url", "gists_url", "starred_url",
        "subscriptions_url", "organizations_url", "repos_url", "events_url", "received_events_url"]
    ++ required .text ["type"] ++ required .flag ["site_admin"]

/-- The fields of a repository. -/
def repositoryFields : List Field :=
  required nat64 ["id"] ++ optional .text ["node_id"] ++ required .text ["name"]
    ++ optional .text ["full_name"] ++ optional (.record .user) ["owner"]
    ++ optional .flag ["private"] ++ optional .address ["html_url"]
    ++ optional .text ["description"] ++ optional .flag ["fork"] ++ required .address ["url"]
    ++ optional .address
      ["archive_url", "assignees_url", "blobs_url", "branches_url", "collaborators_url",
        "comments_url", "commits_url", "compare_url", "contents_url", "contributors_url",
        "deployments_url", "downloads_url", "events_url", "forks_url", "git_commits_url",
        "git_refs_url", "git_tags_url", "git_url", "issue_comment_url", "issue_events_url",
        "issues_url", "keys_url", "labels_url", "languages_url", "merges_url", "milestones_url",
        "notifications_url", "pulls_url", "releases_url"]
    ++ optional .text ["ssh_url"]
    ++ optional .address
      ["stargazers_url", "statuses_url", "subscribers_url", "subscription_url", "tags_url",
        "teams_url", "trees_url", "clone_url", "mirror_url", "hooks_url", "svn_url"]
    ++ optional .text ["homepage"] ++ optional .anything ["language"]
    ++ optional nat32 ["forks_count", "stargazers_count", "watchers_count", "size"]
    ++ optional .text ["default_branch"] ++ optional nat32 ["open_issues_count"]
    ++ optional .flag ["is_template"] ++ optional (.list .text) ["topics"]
    ++ optional .flag
      ["has_issues", "has_projects", "has_wiki", "has_pages", "has_downloads", "archived",
        "disabled"]
    ++ optional .text ["visibility"] ++ optional .momentOrSeconds ["pushed_at", "created_at"]
    ++ optional .moment ["updated_at"] ++ optional (.record .permissions) ["permissions"]
    ++ optional .flag ["allow_rebase_merge"]
    ++ optional (.record .repository) ["template_repository"]
    ++ optional .flag
      ["allow_squash_merge", "allow_merge_commit", "allow_update_branch", "allow_forking"]
    ++ optional .signed ["subscribers_count", "network_count"]
    ++ optional (.record .license) ["license"]
    ++ optional .flag ["allow_auto_merge", "delete_branch_on_merge"]
    ++ optional (.record .repository) ["parent", "source"]

/-- The fields of a pull request. -/
def pullRequestFields : List Field :=
  required .text ["url"] ++ required nat64 ["id"] ++ optional .text ["node_id"]
    ++ optional .address
      ["html_url", "diff_url", "patch_url", "issue_url", "commits_url", "review_comments_url",
        "review_comment_url", "comments_url", "statuses_url"]
    ++ required nat64 ["number"] ++ optional (.oneOf ["open", "closed"]) ["state"]
    ++ defaulted .flag ["locked", "maintainer_can_modify"] ++ optional .text ["title"]
    ++ optional (.record .user) ["user"] ++ optional .text ["body", "body_text", "body_html"]
    ++ optional (.list (.record .label)) ["labels"]
    ++ optional (.record .milestone) ["milestone"] ++ optional .text ["active_lock_reason"]
    ++ optional .moment ["created_at", "updated_at", "closed_at"] ++ optional .flag ["mergeable"]
    ++ optional (.oneOf ["behind", "blocked", "clean", "dirty", "draft", "has_hooks", "unknown",
      "unstable"]) ["mergeable_state"]
    ++ optional .flag ["merged"] ++ optional .moment ["merged_at"]
    ++ optional (.record .user) ["merged_by"] ++ optional .text ["merge_commit_sha"]
    ++ optional (.record .user) ["assignee"]
    ++ optional (.list (.record .user)) ["assignees", "requested_reviewers"]
    ++ optional (.list (.record .team)) ["requested_teams"] ++ optional .flag ["rebaseable"]
    ++ required (.record .branch) ["head", "base"] ++ optional (.record .links) ["_links"]
    ++ optional .text ["author_association"] ++ optional .flag ["draft"]
    ++ optional (.record .repository) ["repo"]
    ++ optional nat64
      ["additions", "deletions", "changed_files", "commits", "review_comments", "comments"]

/-- The fields of a record, in order. -/
def fieldsOf : RecordKind → List Field
  | .user => userFields ++ optional .text ["patch_url", "email"]
  | .license =>
    required .text ["key", "name", "node_id", "spdx_id"] ++ optional .address ["url", "html_url"]
      ++ optional .text ["description", "implementation"]
      ++ optional (.list .text) ["permissions", "conditions", "limitations"]
      ++ optional .text ["body"] ++ optional .flag ["featured"]
  | .permissions =>
    defaulted .flag ["admin"] ++ required .flag ["push", "pull"]
      ++ defaulted .flag ["triage", "maintain"]
  | .repository => repositoryFields
  | .branch =>
    optional .text ["label"] ++ required .text ["ref", "sha"] ++ optional (.record .user) ["user"]
      ++ optional (.record .repository) ["repo"]
  | .label =>
    required nat64 ["id"] ++ required .text ["node_id"] ++ required .address ["url"]
      ++ required .text ["name"] ++ optional .text ["description"] ++ required .text ["color"]
      ++ required .flag ["default"]
  | .milestone =>
    required .address ["url", "html_url"] ++ optional .address ["labels_url"]
      ++ required nat64 ["id"] ++ required .text ["node_id"] ++ required .signed ["number"]
      ++ optional .text ["state"] ++ required .text ["title"] ++ optional .text ["description"]
      ++ optional (.record .user) ["creator"] ++ optional .signed ["open_issues", "closed_issues"]
      ++ required .moment ["created_at"] ++ optional .moment ["updated_at", "closed_at", "due_on"]
  | .link => required .address ["href"]
  | .links =>
    optional (.record .link)
      ["self", "html", "issue", "comments", "review_comments", "review_comment", "commits",
        "statuses"]
  | .team =>
    required nat64 ["id"] ++ required .text ["node_id", "name", "slug"]
      ++ optional .text ["description"] ++ required .text ["privacy", "permission"]
      ++ required .address ["url", "html_url", "members_url", "repositories_url"]
  | .pullRequest => pullRequestFields
  | .fileLinks => optional .address ["git", "html"] ++ required .address ["self"]
  | .file =>
    required .text ["name", "path", "sha"] ++ optional .text ["encoding", "content"]
      ++ required .signed ["size"] ++ required .text ["url"]
      ++ optional .text ["html_url", "git_url", "download_url"] ++ required .text ["type"]
      ++ required (.record .fileLinks) ["_links"] ++ optional (.record .license) ["license"]
  | .uploader => userFields
  | .asset =>
    required .address ["url", "browser_download_url"] ++ required nat64 ["id"]
      ++ required .text ["node_id", "name"] ++ optional .text ["label"]
      ++ required .text ["state", "content_type"] ++ required .signed ["size", "download_count"]
      ++ required .moment ["created_at", "updated_at"] ++ optional (.record .uploader) ["uploader"]
  | .release =>
    required .address ["url", "html_url", "assets_url"] ++ required .text ["upload_url"]
      ++ optional .address ["tarball_url", "zipball_url"] ++ required nat64 ["id"]
      ++ required .text ["node_id", "tag_name", "target_commitish"]
      ++ optional .text ["name", "body"] ++ required .flag ["draft", "prerelease"]
      ++ optional .moment ["created_at", "published_at"] ++ optional (.record .user) ["author"]
      ++ required (.list (.record .asset)) ["assets"]

/-! ## 3. Values -/

/-- The fields of a record in a value. -/
def read? (kind : RecordKind) (j : Json) : Option Fields :=
  Json.record? ((fieldsOf kind).map Field.name) j

/-- Whether a field is given as it has to be, when shapes are checked by `fits`. -/
def Field.isGiven (fits : Json → Bool) (fields : Fields) (f : Field) : Bool :=
  match fields.given.lookup f.name with
  | some .null => f.presence == .optional || fits .null
  | some j => fits j
  | none =>
    match f.presence with
    | .required => false
    | .optional => !fields.positional
    | .defaulted => true

/-- A whole number of 64 bits with a sign. -/
def isSigned (n : Int) : Bool :=
  -0x8000000000000000 ≤ n && n < 0x8000000000000000

/-- Whether a value has a shape. The room is how many more arrays and objects may be nested. -/
def Shape.fits : Nat → Shape → Json → Bool
  | _, .text, j => (Json.text? j).isSome
  | _, .flag, j => (Json.bool? j).isSome
  | _, .natural limit, j => (Json.natBelow? limit j).isSome
  | _, .signed, .integer n => isSigned n
  | _, .address, .string t => (Url.parse? t).isSome
  | _, .moment, .string t => Calendar.isMoment t
  | _, .momentOrSeconds, .string t => Calendar.isMoment t
  | _, .momentOrSeconds, .integer n => Calendar.isSecond n
  | _, .oneOf names, .string t => names.contains t
  | _, .oneOf names, .object [(name, .null)] => names.contains name
  | room, .anything, j => j.isSound && j.depth ≤ room
  | room + 1, .list item, .array items => items.all (Shape.fits room item)
  | room + 1, .record kind, j =>
    (read? kind j).any fun fields =>
      (fieldsOf kind).all fun f => f.isGiven (Shape.fits room f.shape) fields
  | _, _, _ => false

/-- The fields of a record in a value that has its shape. -/
def fitting? (kind : RecordKind) (j : Json) : Option Fields :=
  if Shape.fits Json.maxDepth (.record kind) j then read? kind j else none

end GitHub

end MergeScribe
