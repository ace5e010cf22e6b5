import NetDesign.CommandLine
import NetDesign.Timestamp

set_option autoImplicit false

namespace NetDesign

/-- The time, as the file system gives it to a new file. -/
def currentTimestamp : IO String := do
  let (_, path) ← IO.FS.createTempFile
  let modified := (← path.metadata).modified
  IO.FS.removeFile path
  return Timestamp.text modified.sec.toNat (modified.nsec.toNat / 1000)

def readFile? (name : String) : IO (Option ByteArray) := do
  try
    return some (← IO.FS.readBinFile name)
  catch _ =>
    return none

/-- Writes a file; tells whether it could be written. -/
def writeFile (name text : String) : IO Bool := do
  try
    IO.FS.writeFile name text
    return true
  catch _ =>
    return false

/-- Complains and gives the exit code of a failure. -/
def complain (e : Error) : IO UInt32 := do
  IO.eprintln s!"Error: {e.message}"
  return 1

def runCommand (command : Command) : IO UInt32 := do
  let files ← command.inputs.mapM fun name => return (name, ← readFile? name)
  match command.effect (fun name => (files.lookup name).join) (← currentTimestamp) with
  | .error e => complain e
  | .ok effect =>
    IO.print effect.stdout
    if let some (name, text) := effect.written then
      unless ← writeFile name text do
        return ← complain (.file name)
    match effect.complaint with
    | some e => complain e
    | none => return 0

end NetDesign

open NetDesign in
def main (words : List String) : IO UInt32 := do
  match Invocation.ofWords words with
  | .run command => runCommand command
  | .help =>
    IO.print Invocation.usage
    return 0
  | .misuse =>
    IO.eprint Invocation.usage
    return 2
