import MergeScribe.Text.Basic

/-!
# Changelogs

A changelog is a list of versions. A version holds entries directly and under named sections, and
an entry is a summary with a reference to the issue or the person it is owed to, if any. The
version called `HEAD` collects what is not released yet.

The operations here are those of a program that edits a document: they keep `HEAD` in front, make
versions and sections on demand, and enter a reference only once in each place.
-/

namespace MergeScribe

/-! ## 1. The document -/

/-- One change: what was done, and the issue (`#12`) or person (`@name`) it is owed to. -/
structure Entry where
  summary : Text
  reference : Option Text
  deriving DecidableEq, Repr

/-- Entries under a heading of their own. -/
structure Section where
  name : Text
  entries : List Entry
  deriving DecidableEq, Repr

/-- A version: entries directly under its heading, then its sections. -/
structure Version where
  id : Text
  date : Option Text
  entries : List Entry
  sections : List Section
  deriving DecidableEq, Repr

/-- A changelog, its versions in the order of the file. -/
structure Changelog where
  versions : List Version
  deriving DecidableEq, Repr

/-- Where an entry stands in a version. -/
inductive Place where
  | direct
  | under (name : Text)
  deriving DecidableEq, Repr

/-- Change the first member with a property. -/
def updateFirst {α : Type} (p : α → Bool) (f : α → α) : List α → List α
  | [] => []
  | a :: more => if p a then f a :: more else a :: updateFirst p f more

/-! ## 2. Entries -/

namespace Entry

/-- An entry that names a reference; the empty text names none. -/
def referring (summary reference : Text) : Entry :=
  ⟨summary, if reference.isEmpty then none else some reference⟩

/-- Whether one of the entries has the reference. No entry is looked for by no reference. -/
def listed (entries : List Entry) : Option Text → Bool
  | none => false
  | some r => entries.any fun e => e.reference == some r

end Entry

/-! ## 3. Versions -/

namespace Version

/-- The id of the version that collects what is not released yet. -/
def head : Text := "HEAD"

/-- The version of an id without date or entries. -/
def fresh (id : Text) : Version :=
  ⟨id, none, [], []⟩

/-- Whether this is the version of unreleased changes. -/
def isHead (v : Version) : Bool :=
  v.id == head

/-- Whether the version has neither entries nor sections. -/
def isEmpty (v : Version) : Bool :=
  v.entries.isEmpty && v.sections.isEmpty

/-- The section of a name. -/
def section? (v : Version) (name : Text) : Option Section :=
  v.sections.find? fun s => s.name == name

/-- The version with a section of the name, made last and empty if it was missing. -/
def ensureSection (v : Version) (name : Text) : Version :=
  if v.sections.any fun s => s.name == name then v
  else { v with sections := v.sections ++ [⟨name, []⟩] }

/-- The entries in a place; a section that is missing has none. -/
def entriesAt (v : Version) : Place → List Entry
  | .direct => v.entries
  | .under name => ((v.section? name).map Section.entries).getD []

/-- Enter one more entry in a place, last. -/
def append (v : Version) (e : Entry) : Place → Version
  | .direct => { v with entries := v.entries ++ [e] }
  | .under name =>
    let v := v.ensureSection name
    { v with
      sections := updateFirst (fun s => s.name == name)
        (fun s => { s with entries := s.entries ++ [e] }) v.sections }

end Version

/-! ## 4. Changelogs -/

namespace Changelog

/-- The changelog without versions. -/
def empty : Changelog :=
  ⟨[]⟩

/-- Whether the changelog has no version. -/
def isEmpty (c : Changelog) : Bool :=
  c.versions.isEmpty

/-- The version of an id. -/
def version? (c : Changelog) (id : Text) : Option Version :=
  c.versions.find? fun v => v.id == id

/-- The place of the version of an id in the list of versions. -/
def position? (c : Changelog) (id : Text) : Option Nat :=
  c.versions.findIdx? fun v => v.id == id

/-- A new version in front, but after `HEAD` unless it is `HEAD` itself. -/
def insertFresh (id : Text) : List Version → List Version
  | [] => [Version.fresh id]
  | v :: more =>
    if v.isHead && id != Version.head then v :: Version.fresh id :: more
    else Version.fresh id :: v :: more

/-- The changelog with a version of the id, made empty if it was missing. -/
def ensureVersion (c : Changelog) (id : Text) : Changelog :=
  if c.versions.any fun v => v.id == id then c else ⟨insertFresh id c.versions⟩

/-- Change the version of an id. -/
def update (c : Changelog) (id : Text) (f : Version → Version) : Changelog :=
  ⟨updateFirst (fun v => v.id == id) f c.versions⟩

/-- The changelog with a section of the name in the version of the id. -/
def ensureSection (c : Changelog) (id name : Text) : Changelog :=
  (c.ensureVersion id).update id fun v => v.ensureSection name

/-- The entries in a place of a version; what is missing has none. -/
def entriesAt (c : Changelog) (id : Text) (place : Place) : List Entry :=
  ((c.version? id).map fun v => v.entriesAt place).getD []

/-- Enter an entry last in a place of a version, both made on demand. An entry whose reference the
place already lists is not entered, and the answer says so. -/
def append (c : Changelog) (id : Text) (place : Place) (e : Entry) : Bool × Changelog :=
  if Entry.listed (c.entriesAt id place) e.reference then (false, c)
  else (true, (c.ensureVersion id).update id fun v => v.append e place)

end Changelog

end MergeScribe
