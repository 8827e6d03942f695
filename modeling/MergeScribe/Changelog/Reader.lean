import MergeScribe.Changelog.Line

/-!
# Reading a changelog

A reader takes the lines of a file one by one and builds the document. It keeps three cursors: the
version and the section that entries go to, and the entry that wrapped text is joined to. It
never fails. What a careful reader objects to is said beside it, line by line (`Reader.fault?`),
so the lenient reading (`Changelog.parse`) and the strict one (`Changelog.parseStrict`) build the
same document.
-/

namespace MergeScribe

/-- Where an entry stands in a document, by indices. Without a section it stands directly under its
version. -/
structure Spot where
  version : Nat
  sectionAt : Option Nat
  entry : Nat
  deriving DecidableEq, Repr

/-- The document read so far and the cursors. -/
structure Reader where
  document : Changelog
  versionAt : Option Nat
  sectionAt : Option Nat
  latest : Option Spot
  deriving DecidableEq, Repr

/-! ## 1. Reaching into a document by indices -/

namespace Version

/-- Change the entries directly under the version, or those of the section of an index. -/
def modifyEntries (v : Version) (sectionAt : Option Nat) (f : List Entry → List Entry) : Version :=
  match sectionAt with
  | none => { v with entries := f v.entries }
  | some j =>
    { v with sections := v.sections.modify j fun s => { s with entries := f s.entries } }

/-- The entries directly under the version, or those of the section of an index. -/
def entriesIn (v : Version) : Option Nat → List Entry
  | none => v.entries
  | some j => (v.sections[j]?.map Section.entries).getD []

end Version

namespace Changelog

/-- Change the version of an index. -/
def modifyVersion (c : Changelog) (i : Nat) (f : Version → Version) : Changelog :=
  ⟨c.versions.modify i f⟩

/-- The entries under the version of an index, or under a section of it. -/
def entriesIn (c : Changelog) (i : Nat) (sectionAt : Option Nat) : List Entry :=
  (c.versions[i]?.map fun v => v.entriesIn sectionAt).getD []

/-- Change the entry at a spot. -/
def modifyEntry (c : Changelog) (spot : Spot) (f : Entry → Entry) : Changelog :=
  c.modifyVersion spot.version fun v =>
    v.modifyEntries spot.sectionAt fun entries => entries.modify spot.entry f

/-- The entry at a spot. -/
def entryAt? (c : Changelog) (spot : Spot) : Option Entry :=
  (c.entriesIn spot.version spot.sectionAt)[spot.entry]?

end Changelog

/-! ## 2. One line -/

namespace Reader

/-- Nothing read. -/
def start : Reader :=
  ⟨Changelog.empty, none, none, none⟩

/-- Go to the version of a heading. A new one is put at the end, with the date of its heading; a new
`HEAD` is put in front, and the spot of the latest entry moves along. -/
def enterVersion (r : Reader) (id : Text) (date : Option Text) : Reader :=
  match r.document.position? id with
  | some i => { r with versionAt := some i, sectionAt := none }
  | none =>
    let added : Version := { Version.fresh id with date := date }
    if id = Version.head then
      { document := ⟨added :: r.document.versions⟩
        versionAt := some 0
        sectionAt := none
        latest := r.latest.map fun spot => { spot with version := spot.version + 1 } }
    else
      { r with
        document := ⟨r.document.versions ++ [added]⟩
        versionAt := some r.document.versions.length
        sectionAt := none }

/-- Go to the section of a heading, made on demand. Before the first version the heading is passed
over. -/
def enterSection (r : Reader) (name : Text) : Reader :=
  match r.versionAt with
  | none => r
  | some i =>
    let document := r.document.modifyVersion i fun v => v.ensureSection name
    { r with
      document := document
      sectionAt := document.versions[i]?.bind fun v =>
        v.sections.findIdx? fun s => s.name == name }

/-- Enter a change where the cursors are. Before the first version it is passed over. -/
def addEntry (r : Reader) (e : Entry) : Reader :=
  match r.versionAt with
  | none => r
  | some i =>
    { r with
      document := r.document.modifyVersion i fun v =>
        v.modifyEntries r.sectionAt fun entries => entries ++ [e]
      latest := some ⟨i, r.sectionAt, (r.document.entriesIn i r.sectionAt).length⟩ }

/-- Join the text of a wrapped line to the latest entry, if there is one. -/
def continueEntry (r : Reader) (content : Text) : Reader :=
  match r.latest with
  | none => r
  | some spot =>
    { r with document := r.document.modifyEntry spot fun e => e.extend content }

/-- Take one line in. -/
def read (r : Reader) : Line → Reader
  | .version id date => r.enterVersion id date
  | .heading name => r.enterSection name
  | .change e => r.addEntry e
  | .blank => r
  | .other content => r.continueEntry content

/-- Take lines in, one after the other. -/
def readAll (r : Reader) (lines : List Line) : Reader :=
  lines.foldl read r

end Reader

/-! ## 3. Faults -/

/-- What a careful reader objects to in a line. -/
inductive Fault where
  | unrecognized (content : Text)
  | beforeFirstVersion
  | duplicateVersion (id : Text)
  | headNotFirst
  | duplicateReference (reference : Text)
  deriving DecidableEq, Repr

/-- A fault and the number of its line. The first line has number 1. -/
structure Violation where
  line : Nat
  fault : Fault
  deriving DecidableEq, Repr

/-- What there is to say about a violation. -/
def Violation.message (v : Violation) : Text :=
  let said : Text :=
    match v.fault with
    | .unrecognized content => "unrecognized content '" ++ content ++ "'"
    | .beforeFirstVersion => "content before the first version heading"
    | .duplicateVersion id => "version '" ++ id ++ "' is declared more than once"
    | .headNotFirst => "HEAD must be the first version"
    | .duplicateReference r => "reference '" ++ r ++ "' already appears in this section"
  "line " ++ Text.ofNat v.line ++ ": " ++ said

namespace Reader

/-- What a careful reader objects to in the next line, given what was read before it. -/
def fault? (r : Reader) : Line → Option Fault
  | .version id _ =>
    if (r.document.position? id).isSome then some (.duplicateVersion id)
    else if id = Version.head ∧ ¬ r.document.isEmpty then some .headNotFirst
    else none
  | .heading _ => if r.versionAt.isNone then some .beforeFirstVersion else none
  | .change e =>
    match r.versionAt, e.reference with
    | none, _ => some .beforeFirstVersion
    | some _, none => none
    | some i, some reference =>
      if Entry.listed (r.document.entriesIn i r.sectionAt) (some reference) then
        some (.duplicateReference reference)
      else none
  | .blank => none
  | .other content => some (.unrecognized content)

/-- The violations in lines that follow what was read, the first of which has the given number. -/
def violations (r : Reader) (number : Nat) : List Line → List Violation
  | [] => []
  | line :: more =>
    ((r.fault? line).map fun fault => ⟨number, fault⟩).toList ++
      (r.read line).violations (number + 1) more

end Reader

/-! ## 4. Files -/

namespace Changelog

/-- The lines of a file by their forms. -/
def linesOf (text : Text) : List Line :=
  (Text.lines text).map classify

/-- The document that a file holds, whatever drift there is in its form. -/
def parse (text : Text) : Changelog :=
  (Reader.start.readAll (linesOf text)).document

/-- All that a careful reader objects to in a file, in the order of the lines. -/
def violations (text : Text) : List Violation :=
  Reader.start.violations 1 (linesOf text)

/-- The document that a file holds, or the violations if there are any. -/
def parseStrict (text : Text) : Except (List Violation) Changelog :=
  match violations text with
  | [] => .ok (parse text)
  | found => .error found

end Changelog

end MergeScribe
