import MergeScribe.Changelog.Basic

/-!
# Writing a changelog

The canonical form of a document: versions a blank line apart, entries indented by two spaces under
their heading, and one line feed at the end.
-/

namespace MergeScribe

/-- An entry on its line, the reference in parentheses. -/
def Entry.render (e : Entry) : Text :=
  match e.reference with
  | some reference => "  * " ++ e.summary ++ " (" ++ reference ++ ")"
  | none => "  * " ++ e.summary

/-- Entries one to a line, after a blank line. Without entries there is no blank line either. -/
def Entry.renderBlock (entries : List Entry) : Text :=
  if entries.isEmpty then [] else "\n\n" ++ Text.joined "\n" (entries.map Entry.render)

/-- A section: its heading, and its entries after a blank line. -/
def Section.render (s : Section) : Text :=
  "### " ++ s.name ++ Entry.renderBlock s.entries

/-- Sections a blank line apart, after a blank line. -/
def Section.renderBlock (sections : List Section) : Text :=
  if sections.isEmpty then [] else "\n\n" ++ Text.joined "\n\n" (sections.map Section.render)

namespace Version

/-- The heading of a version. -/
def renderHeading (v : Version) : Text :=
  match v.date with
  | some date => "## " ++ v.id ++ " / " ++ date
  | none => "## " ++ v.id

/-- A version: its heading, its entries, its sections. -/
def render (v : Version) : Text :=
  v.renderHeading ++ Entry.renderBlock v.entries ++ Section.renderBlock v.sections

/-- What a version is announced with: all that follows the first blank line of its text. -/
def body (v : Version) : Text :=
  Text.afterBlankLine v.render

end Version

/-- The file of a document. -/
def Changelog.render (c : Changelog) : Text :=
  Text.joined "\n\n" (c.versions.map Version.render) ++ "\n"

end MergeScribe
