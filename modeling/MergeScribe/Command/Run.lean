import MergeScribe.Command.Arguments
import MergeScribe.Command.EnvFile
import MergeScribe.Command.Format
import MergeScribe.Config.Discovery
import MergeScribe.Credential
import MergeScribe.GitHub.Rest
import MergeScribe.Handler.Merge
import MergeScribe.Handler.Milestone
import MergeScribe.Handler.Release

/-!
# Running a command

The program reads its arguments and its configuration, does what it is told, and ends in a status: 0
if that worked, 1 if it did not, 2 if the arguments make no sense.
-/

namespace MergeScribe

namespace Command

/-- The variable that names the configuration file. -/
def configVariable : Text := "HISTORY_BOT_CONFIG"

/-! ## 1. Events -/

/-- The text of a payload: a file, or the standard input. -/
def readPayload (source : Text) : Program System (Except Text Text) := do
  if source = "-" then
    match Text.ofBytes? (← System.readInput) with
    | some payload => return .ok payload
    | none => return .error "Failed to read payload from stdin"
  else
    match ← System.readText source with
    | some payload => return .ok payload
    | none => return .error ("Failed to read " ++ source)

/-- What to print of a verdict. -/
def report {α : Type} (describe : α → List Text) : Verdict α → Except Text (List Text)
  | .ok (.notApplicable reason) => .ok ["Nothing to do: " ++ reason]
  | .ok (.handled value) => .ok (describe value)
  | .error problem => .error problem.message

/-- Read an event from a payload, connect, and let a handler handle it. -/
def handleEvent {ε α : Type} (config : Config) (source : Text) (decode : Json → Option ε)
    (handler : ε → Program GitHub (Verdict α)) (describe : α → List Text) :
    Program System (Except Text Unit) := do
  match ← readPayload source with
  | .error message => return .error message
  | .ok payload =>
    match (Json.parse? payload).bind decode with
    | none => return .error payloadMessage
    | some event =>
      match ← Credential.connect config.host with
      | .error message => return .error message
      | .ok connection => do
        let handled := Program.interpret GitHub.overHttp (handler event)
        match report describe (← System.overConnection connection handled) with
        | .error message => return .error message
        | .ok lines =>
          System.printAll lines
          return .ok ()

/-- What to print of a merge. -/
def describeMerge (r : MergeReport) : List Text :=
  ["Merged " ++ r.reference ++ " (section: " ++ r.sectionName ++ ")",
    "  delete branch: " ++ r.deleteBranch.describe,
    "  labels:        " ++ r.labels.describe,
    "  history:       " ++ r.history.describe]

/-- What to print of a release. -/
def describeRelease (r : ReleaseNotes) : List Text :=
  ["Released " ++ r.tag ++ " from " ++ r.version]

/-- What to print of milestones that were closed. -/
def describeClosed (numbers : List Nat) : List Text :=
  ["Closed milestones: [" ++ Text.joined ", " (numbers.map Text.ofNat) ++ "]"]

/-! ## 2. Changelog files -/

/-- Print the notes that a tag gets from a changelog file. -/
def printNotes (file tag : Text) : Program System (Except Text Unit) := do
  match ← System.readText file with
  | none => return .error ("Failed to read " ++ file)
  | some text =>
    match ReleaseNotes.ofTag (Changelog.parse text) tag file with
    | .error problem => return .error problem.message
    | .ok found =>
      System.print found.body
      return .ok ()

/-! ## 3. The program -/

/-- Do what a command says. -/
def execute (config : Config) : Command → Program System (Except Text Unit)
  | .mergeAndLabel payload =>
    handleEvent config payload IssueComment.ofJson? (Merge.handle config) describeMerge
  | .release payload =>
    handleEvent config payload RefCreation.ofJson? (Release.handle config) describeRelease
  | .closeMilestone payload =>
    handleEvent config payload ReleaseEvent.ofJson? Milestone.handle describeClosed
  | .format file check strict => Formatting.run file check strict
  | .notes file tag => printNotes file tag

/-- The configuration: the file that is asked for, or the one that is found. -/
def configuration : Option Text → Program System (Except Text Config)
  | some path => Config.ofFile path
  | none => do return .ok (← Config.load)

/-- Do what an invocation says, with its configuration. -/
def invoke (invocation : Invocation) : Program System (Except Text Unit) := do
  match ← configuration invocation.config with
  | .error message => return .error message
  | .ok config => execute config invocation.command

/-- Run the program with arguments, and answer its status. -/
def run (arguments : List Text) : Program System Nat := do
  EnvFile.load
  match Arguments.read (← System.getVariable configVariable) arguments with
  | .error .misuse =>
    System.complainAll (Usage.help none)
    return 2
  | .error (.version verb) =>
    System.print (Usage.version verb)
    return 0
  | .error (.help verb) =>
    System.printAll (Usage.help verb)
    return 0
  | .ok invocation =>
    match ← invoke invocation with
    | .ok _ => return 0
    | .error message =>
      System.complain ("Error: " ++ message)
      return 1

end Command

end MergeScribe
