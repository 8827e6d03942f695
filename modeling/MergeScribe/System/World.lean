import MergeScribe.System.Basic

/-!
# A machine in memory

A machine whose files, variables and streams are a value. It has no network.
-/

namespace MergeScribe

/-- What is at a path. -/
inductive FileState where
  | directory
  | file (content : Bytes)

/-- The state of the machine. Files are named by the parts of their paths; a path that does not
start with a slash is relative to the directory that the empty list names. -/
structure World where
  files : List (List Text × FileState)
  environment : Environment
  input : Bytes
  helper : Option HelperOutput
  output : List Text
  complaints : List Text

namespace World

/-- Whether the parts name a directory: one that is there, or one that something is in. -/
def isDirectory (w : World) (parts : List Text) : Bool :=
  w.files.any fun (name, state) =>
    match state with
    | .directory => parts.isPrefixOf name
    | .file _ => parts.isPrefixOf name && parts != name

/-- Follow the parts of a path from a directory, which is given last part first. A step up must
start from a directory, and nothing is above the first one. -/
def follow (w : World) (at_ : List Text) : List Text → Option (List Text)
  | [] => some at_.reverse
  | part :: more =>
    if part.isEmpty || part == ['.'] then
      if at_.isEmpty || w.isDirectory at_.reverse then w.follow at_ more else none
    else if part == "..".toList then
      match at_ with
      | [] => none
      | _ :: above => if w.isDirectory at_.reverse then w.follow above more else none
    else w.follow (part :: at_) more

/-- The parts that a path comes to. An absolute path starts with an empty part of its own. -/
def locate (w : World) (path : Text) : Option (List Text) :=
  match Text.pieces '/' path with
  | [[]] => none
  | [] :: parts => w.follow [[]] parts
  | parts => w.follow [] parts

/-- The bytes of the file at a path. -/
def readFile (w : World) (path : Text) : Option Bytes :=
  match (w.locate path).bind fun parts => w.files.lookup parts with
  | some (.file content) => some content
  | _ => none

/-- Put a value under a key, in the place of the one that was there. -/
def put {κ α : Type} [BEq κ] (key : κ) (value : α) : List (κ × α) → List (κ × α)
  | [] => [(key, value)]
  | (k, v) :: more => if k == key then (k, value) :: more else (k, v) :: put key value more

/-- Write the file at a path; not if a directory is there or the directory for it is missing. -/
def writeFile (w : World) (path content : Text) : Bool × World :=
  match w.locate path with
  | none => (false, w)
  | some parts =>
    let above := parts.dropLast
    if w.isDirectory parts || !(above.isEmpty || w.isDirectory above) then (false, w)
    else (true, { w with files := put parts (.file (Text.toBytes content)) w.files })

/-- Answer a request to the machine. -/
def respond : Program.Responder System World
  | .readFile path, w => (w.readFile path, w)
  | .writeFile path content, w => w.writeFile path content
  | .readInput, w => (w.input, { w with input := [] })
  | .getVariable name, w => (Environment.valueOf name w.environment, w)
  | .setVariable name value, w => ((), { w with environment := put name value w.environment })
  | .runHelper _, w => (w.helper, w)
  | .send _ _, w => (none, w)
  | .print line, w => ((), { w with output := w.output ++ [line] })
  | .complain line, w => ((), { w with complaints := w.complaints ++ [line] })

end World

end MergeScribe
