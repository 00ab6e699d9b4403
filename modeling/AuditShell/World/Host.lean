import AuditShell.CommandLine
import AuditShell.Digest
import AuditShell.World.Machine
/-!
# The program in a contained world

The command line run against a world of its own: its files, its programs and its standard input.
-/
namespace AuditShell.World

/-- The variables that programs are given in a world with the given home directory. -/
def environmentFor (home : Bytes) : List (Bytes × Bytes) :=
  [(text "HOME", home), (text "LC_ALL", text "C"), (text "PATH", text "/usr/local/bin:/usr/bin:/bin"),
    (text "TZ", text "UTC")]

/-- How lines are recorded in a world. -/
def recorder : Recorder World := ⟨logStore, sha256, fun w => w.clock⟩

/-- A world as a place to run the program in, with the given home directory. -/
def host (home : Bytes) : CommandLine.Host World where
  machine := machine
  recorder := recorder
  readFile := readDisk
  takeInput w := (w.stdin, { w with stdin := [] })
  home := home
  user := text "user"
  hostName := text "host"

end AuditShell.World
