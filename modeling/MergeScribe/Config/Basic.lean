import MergeScribe.Category
import MergeScribe.Changelog.Merge
import MergeScribe.Directive

/-!
# Configuration

Where the changelog lives, who commits to it, how pull requests are merged, and the table of
categories. Every setting has a default, and so has each group of settings as a whole. From these
follows the section that a merged change is filed under.
-/

namespace MergeScribe

/-- Where the changelog is, and how often its update is tried. -/
structure HistorySettings where
  path : Text
  branch : Text
  maxAttempts : Nat
  deriving DecidableEq, Repr

namespace HistorySettings

/-- The changelog's usual path. -/
def defaultPath : Text := "History.markdown"

/-- The branch that it usually is on. -/
def defaultBranch : Text := "master"

/-- How often its update is usually tried. -/
def defaultMaxAttempts : Nat := 3

/-- The changelog's usual place. -/
def default : HistorySettings :=
  ⟨defaultPath, defaultBranch, defaultMaxAttempts⟩

end HistorySettings

/-- Who the commits are by. -/
structure Identity where
  name : Text
  email : Text
  deriving DecidableEq, Repr

namespace Identity

/-- The bot's own name. -/
def defaultName : Text := "jekyllbot"

/-- The bot's own address. -/
def defaultEmail : Text := "jekyllbot@jekyllrb.com"

/-- The bot itself. -/
def default : Identity :=
  ⟨defaultName, defaultEmail⟩

end Identity

/-- How the commits of a pull request get onto its base branch. -/
inductive MergeMethod where
  | merge
  | squash
  | rebase
  deriving DecidableEq, Repr

/-- The name of a merge method. -/
def MergeMethod.name : MergeMethod → Text
  | .merge => "merge"
  | .squash => "squash"
  | .rebase => "rebase"

/-- Unless told otherwise, all commits are squashed into one. -/
def MergeMethod.default : MergeMethod := .squash

/-- What a merge does besides merging. -/
structure MergeSettings where
  method : MergeMethod
  /-- The branch that pages are served from, which is never deleted. -/
  pagesBranch : Text
  /-- The default branch of a repository whose event does not name one. -/
  fallbackBranch : Text
  /-- Whether a directive without a label is filed by the labels of the issue. -/
  inferSection : Bool
  deriving DecidableEq, Repr

namespace MergeSettings

/-- The branch that pages are usually served from. -/
def defaultPagesBranch : Text := "gh-pages"

/-- The usual default branch of a repository. -/
def defaultFallbackBranch : Text := "master"

/-- Merge as usual, and file under no section what has no label. -/
def default : MergeSettings :=
  ⟨.default, defaultPagesBranch, defaultFallbackBranch, false⟩

end MergeSettings

/-- A configuration. Without a host it is for github.com. -/
structure Config where
  host : Option Text
  history : HistorySettings
  committer : Identity
  merge : MergeSettings
  categories : List Category
  deriving DecidableEq, Repr

namespace Config

/-- The configuration that holds where nothing is configured. -/
def default : Config :=
  ⟨none, .default, .default, .default, Category.defaults⟩

/-- The section that a change is filed under. A label in the directive decides; without one it is
no section, unless the labels of the issue are to be looked at and one of them is known. -/
def resolveSection (config : Config) (directive : Directive) (issueLabels : List Text) : Text :=
  match directive.label with
  | some label =>
    Category.sectionOfSlug config.categories (Category.slugOfLabel config.categories label)
  | none =>
    if config.merge.inferSection then
      match Category.firstSlug? config.categories issueLabels with
      | some slug => Category.sectionOfSlug config.categories slug
      | none => noSection
    else noSection

end Config

end MergeScribe
