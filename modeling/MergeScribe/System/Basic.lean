import MergeScribe.Http.Basic
import MergeScribe.Text.Utf8

/-!
# The machine

What the command line asks of the machine it runs on: files, standard streams, environment
variables, the credential helper and the network.
-/

namespace MergeScribe

/-- What the credential helper did: whether it reported success, and what it printed. -/
structure HelperOutput where
  success : Bool
  output : Bytes

/-- Environment variables and their values. -/
abbrev Environment : Type :=
  List (Text × Text)

/-- The value of a variable. A name may reach over the equals sign between a name and its value into
the value, as the machine has both in one text. -/
def Environment.valueOf (name : Text) (environment : Environment) : Option Text :=
  environment.findSome? fun (key, value) => Text.after? (name ++ "=") (key ++ '=' :: value)

/-- Where GitHub is, and what to show it. Without a host it is github.com. -/
structure Connection where
  host : Option Text
  token : Text

/-- A request to the machine. -/
inductive SystemCall where
  | readFile (path : Text)
  | writeFile (path content : Text)
  | readInput
  | getVariable (name : Text)
  | setVariable (name value : Text)
  /-- Run the credential helper with arguments. -/
  | runHelper (arguments : List Text)
  /-- Hand a request to the client library, to be made on a connection. -/
  | send (connection : Connection) (request : HttpRequest)
  | print (line : Text)
  | complain (line : Text)

/-- The interface of the machine. What cannot be read or run gives nothing. -/
def System : Interface where
  Call := SystemCall
  Answer
    | .readFile _ => Option Bytes
    | .writeFile _ _ => Bool
    | .readInput => Bytes
    | .getVariable _ => Option Text
    | .setVariable _ _ => Unit
    | .runHelper _ => Option HelperOutput
    | .send _ _ => Option HttpResponse
    | .print _ => Unit
    | .complain _ => Unit

namespace System

/-- The bytes of a file. -/
def readFile (path : Text) : Program System (Option Bytes) :=
  Program.request (I := System) (.readFile path)

/-- The text of a file, if there is one and it is UTF-8. -/
def readText (path : Text) : Program System (Option Text) := do
  return (← readFile path).bind Text.ofBytes?

/-- Write a file; answers whether that worked. -/
def writeFile (path content : Text) : Program System Bool :=
  Program.request (I := System) (.writeFile path content)

/-- All of the standard input. -/
def readInput : Program System Bytes :=
  Program.request (I := System) .readInput

/-- The value of an environment variable. -/
def getVariable (name : Text) : Program System (Option Text) :=
  Program.request (I := System) (.getVariable name)

/-- Set an environment variable. -/
def setVariable (name value : Text) : Program System Unit :=
  Program.request (I := System) (.setVariable name value)

/-- Run the credential helper. -/
def runHelper (arguments : List Text) : Program System (Option HelperOutput) :=
  Program.request (I := System) (.runHelper arguments)

/-- Print a line. -/
def print (line : Text) : Program System Unit :=
  Program.request (I := System) (.print line)

/-- Print a line to the error stream. -/
def complain (line : Text) : Program System Unit :=
  Program.request (I := System) (.complain line)

/-- Print line by line. -/
def printAll : List Text → Program System Unit
  | [] => return ()
  | line :: more => do
    print line
    printAll more

/-- Print to the error stream line by line. -/
def complainAll : List Text → Program System Unit
  | [] => return ()
  | line :: more => do
    complain line
    complainAll more

/-- Carry out a program over HTTP on a connection. -/
def overConnection {α : Type} (connection : Connection) (p : Program Http α) :
    Program System α :=
  p.interpret fun request => Program.request (I := System) (.send connection request)

end System

end MergeScribe
