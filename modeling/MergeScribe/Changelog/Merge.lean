import MergeScribe.Changelog.Reader
import MergeScribe.Changelog.Render

/-!
# Entering a merged change

A merged change is entered under `HEAD`, in the section it was filed under. Its title is free text
from elsewhere, so what HTML would take for markup is escaped. A reference that the place already
lists is not entered again.
-/

namespace MergeScribe

/-- The section name that stands for no section. -/
def noSection : Text := "none"

/-- A character as HTML text. -/
def escapeChar (c : Char) : Text :=
  if c = '<' then "&lt;"
  else if c = '>' then "&gt;"
  else if c = '&' then "&amp;"
  else [c]

/-- A text as HTML text: angle brackets and ampersands are escaped. -/
def escapeHtml (t : Text) : Text :=
  t.flatMap escapeChar

/-- The place that a section name stands for. -/
def Place.ofSection (name : Text) : Place :=
  if name = noSection then .direct else .under name

namespace Changelog

/-- Enter a merged change under `HEAD`. -/
def insertMerge (c : Changelog) (sectionName title reference : Text) : Bool × Changelog :=
  c.append Version.head (Place.ofSection sectionName)
    (Entry.referring (escapeHtml title) reference)

/-- The file with a merged change entered, in canonical form. -/
def addMerge (text sectionName title reference : Text) : Text :=
  ((parse text).insertMerge sectionName title reference).2.render

end Changelog

end MergeScribe
