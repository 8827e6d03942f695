import MergeScribe.Text.Basic

/-!
# Verbs

What the program can be told to do, the options and operands of each verb, and the help about them.
-/

namespace MergeScribe

/-- What the program can be told to do. -/
inductive Verb where
  | mergeAndLabel
  | release
  | closeMilestone
  | format
  | notes
  deriving DecidableEq, Repr

/-- An option of the command line. -/
inductive Setting where
  | config
  | payload
  | check
  | strict
  deriving DecidableEq, Repr

/-- An operand of a verb. -/
inductive Operand where
  | file
  | tag
  deriving DecidableEq, Repr

namespace Setting

/-- The name of an option on the command line. -/
def name : Setting → Text
  | .config => "config"
  | .payload => "payload"
  | .check => "check"
  | .strict => "strict"

/-- Whether an option takes a value. -/
def takesValue : Setting → Bool
  | .config | .payload => true
  | .check | .strict => false

/-- Whether an option can have a value. The path of a file is not empty. -/
def accepts (s : Setting) (value : Text) : Bool :=
  s ≠ .config || !value.isEmpty

/-- What an option is for. -/
def summary : Setting → Text
  | .config =>
    "Config file (default: .history-bot.toml in the working directory, then $HOME)"
  | .payload => "Webhook JSON payload file, or - for stdin"
  | .check => "Fail instead of rewriting when the file is not canonical"
  | .strict => "Reject lines the lenient parser would silently absorb"

end Setting

namespace Operand

/-- The name of an operand in the help. -/
def name : Operand → Text
  | .file => "FILE"
  | .tag => "TAG"

/-- Whether an operand can have a value. The path of a file is not empty. -/
def accepts (o : Operand) (value : Text) : Bool :=
  o ≠ .file || !value.isEmpty

/-- What an operand is. -/
def summary : Operand → Text
  | .file => "Changelog file"
  | .tag => "Version tag, e.g. v3.0.1"

end Operand

namespace Verb

/-- The verbs. -/
def all : List Verb :=
  [.mergeAndLabel, .release, .closeMilestone, .format, .notes]

/-- The name of a verb on the command line. -/
def name : Verb → Text
  | .mergeAndLabel => "merge-and-label"
  | .release => "release"
  | .closeMilestone => "close-milestone"
  | .format => "fmt"
  | .notes => "notes"

/-- The verb of a name. -/
def ofName? (name : Text) : Option Verb :=
  all.find? fun v => v.name == name

/-- What a verb does. -/
def summary : Verb → Text
  | .mergeAndLabel =>
    "Handle an issue_comment event: merge, delete branch, label, update history"
  | .release => "Handle a create event: publish a release for a version tag"
  | .closeMilestone => "Handle a release event: close the milestone named after the tag"
  | .format => "Rewrite a changelog in canonical form"
  | .notes => "Print the release body a tag would get"

/-- The options of a verb. -/
def settings : Verb → List Setting
  | .mergeAndLabel | .release | .closeMilestone => [.payload, .config]
  | .format => [.config, .check, .strict]
  | .notes => [.config]

/-- The option that a verb has under a name. -/
def setting? (v : Verb) (name : Text) : Option Setting :=
  v.settings.find? fun s => s.name == name

/-- The operands of a verb; it needs all of them. -/
def operands : Verb → List Operand
  | .mergeAndLabel | .release | .closeMilestone => []
  | .format => [.file]
  | .notes => [.file, .tag]

end Verb

/-! ## Help -/

namespace Usage

/-- The name of the program. -/
def program : Text := "history-bot"

/-- The number of the program's release. -/
def number : Text := "0.1.0"

/-- What the program is for. -/
def purpose : Text := "Merge pull requests on command and keep History.markdown in sync"

/-- The version of the program, or of one of its verbs. -/
def version : Option Verb → Text
  | none => program ++ " " ++ number
  | some v => program ++ "-" ++ v.name ++ " " ++ number

/-- A column of names beside what they mean. -/
def table (rows : List (Text × Text)) : List Text :=
  let width := (rows.map fun row => row.1.length).foldl max 0
  rows.map fun (name, meaning) =>
    "  " ++ name ++ List.replicate (width - name.length + 2) ' ' ++ meaning

/-- The row of an option. -/
def optionRow (s : Setting) : Text × Text :=
  let value : Text := if s.takesValue then " <" ++ s.name.map Char.toUpper ++ ">" else []
  ("    --" ++ s.name ++ value, s.summary)

/-- The rows of the options that every verb has, and the program too. -/
def sharedRows : List (Text × Text) :=
  [("-h, --help", "Print help"), ("-V, --version", "Print version")]

/-- The row of the word that asks for help. -/
def helpRow : Text × Text :=
  ("help", "Print this message or the help of the given subcommand(s)")

/-- A heading and the rows under it. -/
def block (heading : Text) (rows : List (Text × Text)) : List Text :=
  heading :: table rows

/-- The help on the program: its verbs and its options. -/
def overview : List Text :=
  [purpose, [], "Usage: " ++ program ++ " [OPTIONS] <COMMAND>", []]
    ++ block "Commands:" (Verb.all.map (fun v => (v.name, v.summary)) ++ [helpRow])
    ++ [] :: block "Options:" (optionRow .config :: sharedRows)

/-- The help on a verb: its operands and its options. -/
def ofVerb (v : Verb) : List Text :=
  let named (o : Operand) : Text := "<" ++ o.name ++ ">"
  let operands : List Text :=
    if v.operands.isEmpty then []
    else block "Arguments:" (v.operands.map fun o => (named o, o.summary)) ++ [[]]
  let words : List Text := [program, v.name, "[OPTIONS]"] ++ v.operands.map named
  [v.summary, [], "Usage: " ++ Text.joined " " words, []] ++ operands
    ++ block "Options:" (v.settings.map optionRow ++ sharedRows)

/-- The help on the program, or on a verb. -/
def help : Option Verb → List Text
  | none => overview
  | some v => ofVerb v

end Usage

end MergeScribe
