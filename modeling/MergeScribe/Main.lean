import MergeScribe.Command.Run

/-!
# The command line

The program on a real machine. It has no network and runs no helper: GitHub cannot be reached, and a
token has to come from the environment.
-/

namespace MergeScribe

/-- The rest of a stream. -/
partial def readRest (stream : IO.FS.Stream) (read : ByteArray) : IO ByteArray := do
  let part ← stream.read 65536
  if part.isEmpty then return read else readRest stream (read ++ part)

/-- The value of an action, or nothing if it fails. -/
def attempt {α : Type} (action : IO α) : IO (Option α) := do
  try
    return some (← action)
  catch _ => return none

/-- Answer a request to the machine. The state is the variables that the program has set. -/
def answerCall : (c : SystemCall) → StateT Environment IO (System.Answer c)
  | .readFile path => do
    return (← attempt (IO.FS.readBinFile path.toString)).map fun bytes => bytes.toList
  | .writeFile path content => do
    return (← attempt (IO.FS.writeFile path.toString content.toString)).isSome
  | .readInput => do
    return (← readRest (← IO.getStdin) ByteArray.empty).toList
  | .getVariable name => do
    match (← get).valueOf name with
    | some value => return some value
    | none => return (← IO.getEnv name.toString).map String.toList
  | .setVariable name value => modify fun settings => (name, value) :: settings
  | .runHelper _ => return none
  | .send _ _ => return none
  | .print line => IO.println line.toString
  | .complain line => IO.eprintln line.toString

end MergeScribe

/-- Run the program and exit with its status. -/
def main (arguments : List String) : IO UInt32 := do
  let program := MergeScribe.Command.run (arguments.map String.toList)
  let (status, _) ← (program.perform MergeScribe.answerCall).run []
  return status.toUInt32
