import AuditShell.World.Host
/-!
# The program

Runs the command line in a contained world. The world starts with the working directory, the home
directory and the configuration file; what lines do to it is gone when the program ends.
-/
namespace AuditShell.Program

/-- The bytes of a buffer. -/
def bytesOf (b : ByteArray) : Bytes := b.data.toList

/-- A path from the root as a place. -/
def placeOf (path : Bytes) : World.Place := (path.splitOn Path.slash).filter (· ≠ [])

/-- Reads a stream to its end. -/
partial def readAll (input : IO.FS.Stream) (sofar : ByteArray) : IO ByteArray := do
  let chunk ← input.read 65536
  if chunk.isEmpty then return sofar else readAll input (sofar ++ chunk)

/-- The content of a file, if it can be read. -/
def readFile? (path : Bytes) : IO (Option Bytes) := do
  try return some (bytesOf (← IO.FS.readBinFile path.toString))
  catch _ => return none

/-- Writes bytes to a stream. -/
def writeAll (output : IO.FS.Stream) (b : Bytes) : IO Unit := do
  output.write (ByteArray.mk b.toArray)
  output.flush

end AuditShell.Program

open AuditShell AuditShell.Program in
/-- Runs the program with its arguments. -/
def main (args : List String) : IO UInt32 := do
  let home := text ((← IO.getEnv "HOME").getD "")
  let cwd := placeOf (text (toString (← IO.currentDir)))
  let args := args.map text
  let path := CommandLine.configPath home args
  let disk := (({} : World.Disk).makeDirs cwd).makeDirs (placeOf home)
  let disk := match ← readFile? path with
    | some content => disk.addFile (if path.head? = some Path.slash then placeOf path else cwd ++ placeOf path) content false
    | none => disk
  let stdin := bytesOf (← readAll (← IO.getStdin) ByteArray.empty)
  let outcome := CommandLine.run (World.host home) args { disk, cwd, stdin, environment := World.environmentFor home }
  writeAll (← IO.getStdout) outcome.stdout
  writeAll (← IO.getStderr) outcome.stderr
  return outcome.code.toUInt32
