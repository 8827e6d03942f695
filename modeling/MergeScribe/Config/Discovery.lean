import MergeScribe.Config.Codec
import MergeScribe.System.Basic
import MergeScribe.Toml.Parser

/-!
# Finding the configuration

The configuration file is looked for in the working directory and then in the home directory, and
the first one that can be read counts, even if it makes no sense. A file that is asked for by name
has to be there and to make sense.
-/

namespace MergeScribe

namespace Config

/-- The name of the configuration file. -/
def fileName : Text := ".history-bot.toml"

/-- A configuration in TOML. -/
def ofToml? (text : Text) : Option Config :=
  (Toml.parse? text).bind fun value => ofData? Toml.dialect value.toJson

/-- The path of a file in a directory. -/
def inDirectory (directory name : Text) : Text :=
  if directory.getLast? = some '/' then directory ++ name else directory ++ '/' :: name

/-- Where the configuration file may be, given the home directory. -/
def searchPaths (home : Option Text) : List Text :=
  match home with
  | none => [fileName]
  | some home => if home.isEmpty then [fileName] else [fileName, inDirectory home fileName]

/-- A file that was found: its path and its text. -/
structure Source where
  path : Text
  content : Text

/-- The first file among paths that can be read. -/
def firstReadable : List Text → Program System (Option Source)
  | [] => return none
  | path :: more => do
    match ← System.readText path with
    | some content => return some ⟨path, content⟩
    | none => firstReadable more

/-- The configuration file, if there is one. -/
def findFile : Program System (Option Source) := do
  firstReadable (searchPaths (← System.getVariable "HOME"))

/-- The configuration that holds when none is asked for by name. -/
def load : Program System Config := do
  match ← findFile with
  | none => return Config.default
  | some source => return (ofToml? source.content).getD Config.default

/-- The configuration in the file at a path. -/
def ofFile (path : Text) : Program System (Except Text Config) := do
  match ← System.readText path with
  | none => return .error ("Failed to read config file " ++ path)
  | some content =>
    match ofToml? content with
    | none => return .error ("Failed to parse config file " ++ path)
    | some config => return .ok config

end Config

end MergeScribe
