import AuditShell.World.Script.Sum
import AuditShell.World.Tool
/-!
# The state of a running script

What a script keeps from one command to the next: its variables, functions and options, where its
streams go, and what it has written.
-/
namespace AuditShell.World.Script

/-- Where a stream goes. -/
inductive Goal where
  | out
  | err
  | nowhere
  | closed
  /-- The end of a file. -/
  | file (p : Place)
  /-- What is held back for a pipe or a word, by the number of open ones below it. -/
  | buffer (n : Nat)
  deriving DecidableEq, Repr

/-- Why the commands that come next are left out. -/
inductive Jump where
  /-- The script ends. -/
  | leave (e : Ended)
  /-- A signal ends the script and all that it is part of. -/
  | die (signal : Nat)
  /-- Loops are over. -/
  | leaveLoop (loops : Nat)
  /-- The next round of a loop begins, after the loops inside it are over. -/
  | nextRound (loops : Nat)
  /-- A function or a script read by another is over. -/
  | goBack
  deriving DecidableEq, Repr

/-- The state of a script. -/
structure State where
  name : Bytes
  args : List Bytes
  surroundings : Surroundings
  /-- The variables that programs are not given. -/
  locals : Variables := []
  /-- The variables that keep their values. -/
  fixed : List Bytes := []
  functions : List (Bytes × Command) := []
  documents : Array Word := #[]
  /-- The letters of the options that are on. -/
  options : List Char := []
  /-- What is done on a signal, or at the end under 0. Nothing to do means that the signal is ignored. -/
  traps : List (Nat × Bytes) := []
  /-- In a copy of the script, what the script itself does on signals. -/
  outerTraps : Option (List (Nat × Bytes)) := none
  /-- The signals that have come and for which the script itself does something. -/
  pending : List Nat := []
  streams : List (Nat × Goal) := [(1, .out), (2, .err)]
  buffers : List (Nat × Bytes) := []
  /-- What has been written, the last write first. -/
  writes : List (Stream × Bytes) := []
  /-- Which standard input this is; zero for the one that the script was started with. -/
  input : Nat := 0
  /-- How many other standard inputs there have been. -/
  inputs : Nat := 0
  readStdin : Bool := false
  /-- What a program would go on writing without end. -/
  endless : Option UInt8 := none
  status : Int := 0
  /-- How the last command inside a word ended. -/
  inner : Option Int := none
  /-- The number of commands started in the background, and how they ended. -/
  jobs : List (Nat × Int) := []
  line : Nat := 1
  loops : Nat := 0
  /-- For each function that runs, the variables that get their values back. -/
  saved : List (List (Bytes × Option Bytes)) := []
  jump : Option Jump := none

/-- The number of the script's own process. -/
def selfId : Nat := 4242

/-- A step of a script. -/
abbrev Step := StateM State

namespace Step

/-! ## Writing -/

/-- Writes to where a stream goes. -/
def emitTo (g : Goal) (b : Bytes) : Step Unit := modify fun s =>
  match g with
  | .out => { s with writes := (.out, b) :: s.writes }
  | .err => { s with writes := (.err, b) :: s.writes }
  | .nowhere | .closed => s
  | .file p =>
    let d := s.surroundings.disk
    let x := match d.node? p with
      | some (.file _ x) => x
      | _ => false
    { s with surroundings := { s.surroundings with disk := d.put p (.file ((d.content? p).getD [] ++ b) x) } }
  | .buffer n => { s with buffers := s.buffers.map fun f => if f.1 = n then (n, f.2 ++ b) else f }

/-- Where a stream goes. -/
def goal (stream : Nat) : Step Goal := return ((← get).streams.lookup stream).getD .closed

/-- Writes to a stream. -/
def emit (stream : Nat) (b : Bytes) : Step Unit := do
  if !b.isEmpty then emitTo (← goal stream) b

/-- Writes a complaint of the script itself. -/
def complain (detail : Bytes) : Step Unit := do
  let s ← get
  emit 2 (s.name ++ text ": " ++ Bytes.ofNat s.line ++ text ": " ++ detail ++ text "\n")

/-- Sets how the last command ended. -/
def setStatus (n : Int) : Step Unit := modify fun s => { s with status := n }

/-- Leaves out the commands that come next. -/
def jump (j : Jump) : Step Unit := modify fun s => { s with jump := some j }

/-- Whether the commands that come next are left out. -/
def isOver : Step Bool := return (← get).jump.isSome

/-- Complains and ends the script. -/
def abort (detail : Bytes) : Step Unit := do
  complain detail
  setStatus 2
  jump (.leave (.code 2))

/-- Whether an option is on. -/
def hasOption (c : Char) : Step Bool := return (← get).options.elem c

end Step

/-! ## Variables -/

namespace State

/-- The value of a variable. -/
def lookup? (s : State) (name : Bytes) : Option Bytes :=
  ((s.locals.get? name).orElse fun _ => Variables.get? s.surroundings.environment name).orElse fun _ =>
    if name = text "PWD" then some s.surroundings.cwd.render
    else if name = text "IFS" then some (text " \t\n")
    else if name = text "PS4" then some (text "+ ")
    else none

/-- Gives a variable a value. A variable that programs are given stays one. -/
def setVariable (s : State) (name value : Bytes) : State :=
  if s.surroundings.environment.any (·.1 = name) then
    { s with surroundings := { s.surroundings with
        environment := s.surroundings.environment.map fun v => if v.1 = name then (name, value) else v } }
  else { s with locals := s.locals.set name value }

/-- Takes a variable away. -/
def unsetVariable (s : State) (name : Bytes) : State :=
  { s with
    locals := s.locals.filter (·.1 ≠ name)
    surroundings := { s.surroundings with environment := s.surroundings.environment.filter (·.1 ≠ name) } }

/-- Makes a variable one that programs are given. -/
def exportVariable (s : State) (name value : Bytes) : State :=
  let given := s.surroundings.environment
  let environment := if given.any (·.1 = name) then given.map fun v => if v.1 = name then (name, value) else v
    else given ++ [(name, value)]
  { s with
    locals := s.locals.filter (·.1 ≠ name)
    surroundings := { s.surroundings with environment } }

/-- The value of a parameter that stands for one text. -/
def parameter? (s : State) (name : Bytes) : Option Bytes :=
  if name = text "$" then some (Bytes.ofNat selfId)
  else if name = text "#" then some (Bytes.ofNat s.args.length)
  else if name = text "?" then some (Bytes.ofInt s.status)
  else if name = text "-" then some (Utf8.encode s.options)
  else if name = text "!" then s.jobs.head?.map fun j => Bytes.ofNat j.1
  else
    match Program.number? name with
    | some 0 => some s.name
    | some n => s.args[n - 1]?
    | none => s.lookup? name

/-- The code with which a script ends that stops here. -/
def code (s : State) : Int :=
  match s.jump with
  | some (.leave e) => e.status
  | _ => s.status

end State

namespace Step

/-- Gives a variable a value. A fixed variable ends the script instead. -/
def assign (name value : Bytes) : Step Unit := do
  if (← get).fixed.elem name then abort (name ++ text ": is read only")
  else modify (·.setVariable name value)

/-! ## Parts of a script that leave it as it was -/

/-- Runs a part of the script in a copy of it. What it writes stays, and what it does to files; its
variables, options and streams do not. -/
def inCopy (part : Step Unit) : Step Unit := do
  let s ← get
  set { s with
    traps := s.traps.filter (·.2.isEmpty)
    outerTraps := some (s.outerTraps.getD s.traps)
    loops := 0
    saved := []
    jobs := [] }
  part
  let t ← get
  let e := s.surroundings
  set { s with
    surroundings := { e with
      disk := t.surroundings.disk
      stdin := if t.input = s.input then t.surroundings.stdin else e.stdin }
    documents := t.documents
    writes := t.writes
    buffers := t.buffers
    inputs := t.inputs
    pending := t.pending
    readStdin := t.readStdin
    endless := t.endless
    status := t.code
    jump := match t.jump with
      | some (.die n) => some (.die n)
      | _ => none }

/-- Sets where a stream goes. -/
def setGoal (stream : Nat) (g : Goal) : Step Unit := modify fun s =>
  { s with streams := (stream, g) :: s.streams.filter (·.1 ≠ stream) }

/-- Sets what the script reads. -/
def setInput (i : Input) : Step Unit := modify fun s =>
  { s with surroundings := { s.surroundings with stdin := i }, input := s.inputs + 1, inputs := s.inputs + 1 }

/-- Holds back what a part of the script writes, which runs in a copy. -/
def holdBack (part : Step Unit) : Step Bytes := do
  let n := (← get).buffers.length
  modify fun s => { s with buffers := (n, []) :: s.buffers }
  inCopy do
    setGoal 1 (.buffer n)
    part
  let s ← get
  set { s with buffers := s.buffers.filter (·.1 ≠ n) }
  return (s.buffers.lookup n).getD []

end Step

end AuditShell.World.Script
