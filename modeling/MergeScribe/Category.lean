import MergeScribe.Text.Case

/-!
# Categories of change

A category ties together four names for a kind of change: the keyword that a maintainer types
(`+bug`), the slug that issues are labelled with (`bug-fixes`), the section of the changelog (`Bug
Fixes`) and the labels that a merged pull request gets. In a table of categories the first row that
fits counts.
-/

namespace MergeScribe

/-- A row of the table of categories. -/
structure Category where
  keyword : Text
  slug : Text
  sectionName : Text
  labels : List Text
  deriving DecidableEq, Repr

namespace Category

/-- The table that holds unless the configuration gives another. -/
def defaults : List Category :=
  [⟨"major", "major-enhancements", "Major Enhancements", ["feature"]⟩,
   ⟨"minor", "minor-enhancements", "Minor Enhancements", ["enhancement"]⟩,
   ⟨"bug", "bug-fixes", "Bug Fixes", ["bug", "fix"]⟩,
   ⟨"fix", "fix", "Bug Fixes", ["bug", "fix"]⟩,
   ⟨"dev", "development-fixes", "Development Fixes", ["internal", "fix"]⟩,
   ⟨"doc", "documentation", "Documentation", ["documentation"]⟩,
   ⟨"port", "forward-ports", "Forward Ports", ["forward-port"]⟩,
   ⟨"site", "site-enhancements", "Site Enhancements", ["documentation"]⟩]

/-- A label in lower case, hyphens for spaces. -/
def hyphenize (label : Text) : Text :=
  (Text.lower label).map fun c => if c = ' ' then '-' else c

/-- The slug that a typed label means: that of the first category whose keyword it starts with. A
label that fits none stands for itself, hyphenized. -/
def slugOfLabel (table : List Category) (label : Text) : Text :=
  match table.find? fun row => Text.startsWith (hyphenize label) row.keyword with
  | some row => row.slug
  | none => hyphenize label

/-- The section of a slug; an unknown slug names a section of its own. -/
def sectionOfSlug (table : List Category) (slug : Text) : Text :=
  match table.find? fun row => row.slug == slug with
  | some row => row.sectionName
  | none => slug

/-- The labels that go with a section; an unknown section has none. -/
def labelsOfSection (table : List Category) (name : Text) : List Text :=
  match table.find? fun row => row.sectionName == name with
  | some row => row.labels
  | none => []

/-- The first label that is the slug of a category. -/
def firstSlug? (table : List Category) (labels : List Text) : Option Text :=
  labels.find? fun label => table.any fun row => row.slug == label

end Category

end MergeScribe
