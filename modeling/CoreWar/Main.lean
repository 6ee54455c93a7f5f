import CoreWar.Command.Basic
import CoreWar.Script.Interpreter

/-!
# The program

Reads the files that the arguments name, and carries out the plan of the command.
-/

namespace CoreWar

namespace Command

/-- The string that a text encodes, as a path for the file system. -/
def pathOf (t : Text) : String :=
  (String.fromUTF8? ⟨t.toArray⟩).getD ""

/-- The number of the error that a directory gives when it is read. -/
def directoryCode : UInt32 := 21

/-- What a file delivers that has given an error, or why it could not be opened. -/
def failed (path : Text) : IO.Error → Except Text Source
  | .noFileOrDirectory .. => .error "no such file or directory"
  | .permissionDenied .. => .error "permission denied"
  | .inappropriateType _ code _ =>
    if code = directoryCode then .ok (directory path) else .error "not a directory"
  | e => .error (toString e)

/-- The content of a file, or the reason why it cannot be opened. -/
def readSource (path : Text) : IO (Except Text Source) := do
  try
    let bytes ← IO.FS.readBinFile (pathOf path)
    return .ok ⟨bytes.toList, none⟩
  catch e => return failed path e

def randomGenerator : IO Pcg := do
  let bytes ← IO.getRandomBytes 16
  let word (bytes : List UInt8) : UInt64 := bytes.foldl (fun w b => w * 256 + b.toUInt64) 0
  return .ofSeed (word (bytes.toList.take 8)) (word (bytes.toList.drop 8))

def write (stream : IO.FS.Stream) (t : Text) : IO Unit :=
  stream.write ⟨t.toArray⟩

/-- Writes chunks to the standard output, and says whether all of them were accepted. -/
def writeChunks (chunks : List Text) : IO Bool := do
  let stdout ← IO.getStdout
  try
    for chunk in chunks do
      write stdout chunk
      stdout.flush
    return true
  catch _ => return false

/-- The environment with the content of the given files. -/
def environment (paths : List Text) : IO Environment := do
  let files ← paths.mapM fun path => return (path, ← readSource path)
  return {
    file := fun path => (files.lookup path).getD (failed path (.noFileOrDirectory "" 0 ""))
    generator := ← randomGenerator
    interpreter := Script.standard
    characters := Unicode.version17
    dump := Snapshot.dump }

end Command

end CoreWar

def main (arguments : List String) : IO UInt32 := do
  let arguments := arguments.map CoreWar.Text.ofString
  let env ← CoreWar.Command.environment (CoreWar.Command.paths arguments)
  let plan := CoreWar.Command.plan env arguments
  let stderr ← IO.getStderr
  CoreWar.Command.write stderr (CoreWar.Log.written plan.log)
  let (errors, exitCode) := plan.ending (← CoreWar.Command.writeChunks plan.chunks)
  CoreWar.Command.write stderr errors
  return exitCode
