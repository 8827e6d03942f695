import MergeScribe.Changelog.Reader
import MergeScribe.Changelog.Render
import MergeScribe.System.Basic

/-!
# Formatting a changelog

A changelog file is brought into its canonical form, or checked for being in it. A strict run
refuses what the reading would pass over or move.
-/

namespace MergeScribe

/-- What to do with the text of a changelog. -/
inductive Formatting where
  /-- It is in canonical form. -/
  | kept
  /-- Its canonical form is another text. -/
  | changed (canonical : Text)
  /-- It was only to be checked, and it is not in canonical form. -/
  | unformatted
  /-- It does not stand up to a strict reading. -/
  | refused (violations : List Violation)
  deriving DecidableEq, Repr

namespace Formatting

/-- The document of a text, read strictly or not. -/
def document (strict : Bool) (text : Text) : Except (List Violation) Changelog :=
  if strict then Changelog.parseStrict text else .ok (Changelog.parse text)

/-- What to do with the text of a changelog. -/
def judge (check strict : Bool) (text : Text) : Formatting :=
  match document strict text with
  | .error violations => .refused violations
  | .ok document =>
    let canonical := document.render
    if canonical = text then .kept
    else if check then .unformatted
    else .changed canonical

/-- A violation as a complaint about a file. -/
def complaint (file : Text) (v : Violation) : Text :=
  file ++ ":" ++ Text.ofNat v.line ++ ": " ++ v.message

/-- Format a changelog file, or only check it. -/
def run (file : Text) (check strict : Bool) : Program System (Except Text Unit) := do
  match ← System.readText file with
  | none => return .error ("Failed to read " ++ file)
  | some text =>
    match judge check strict text with
    | .kept => return .ok ()
    | .unformatted => return .error (file ++ " is not formatted")
    | .refused violations => do
      System.complainAll (violations.map (complaint file))
      return .error (file ++ " has " ++ Text.ofNat violations.length ++ " problem(s)")
    | .changed canonical =>
      if ← System.writeFile file canonical then return .ok ()
      else return .error ("Failed to write " ++ file)

end Formatting

end MergeScribe
