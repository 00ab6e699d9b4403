import AuditShell.World.Script.Condition
import AuditShell.World.Script.Pattern
/-!
# The commands of the interpreter itself

Commands that look at or change the state of the script. Those that run other commands are with the
interpreter.
-/
namespace AuditShell.World.Script

/-! ## Signals -/

/-- The names of the signals from 1 on, and how a shell tells that a program was ended by one. -/
def signals : List (String × String) :=
  [("HUP", "Hangup"), ("INT", "Interrupt"), ("QUIT", "Quit"), ("ILL", "Illegal instruction"),
   ("TRAP", "Trace/breakpoint trap"), ("ABRT", "Aborted"), ("BUS", "Bus error"), ("FPE", "Floating point exception"),
   ("KILL", "Killed"), ("USR1", "User defined signal 1"), ("SEGV", "Segmentation fault"),
   ("USR2", "User defined signal 2"), ("PIPE", "Broken pipe"), ("ALRM", "Alarm clock"), ("TERM", "Terminated"),
   ("STKFLT", "Stack fault"), ("CHLD", "Child exited"), ("CONT", "Continued"), ("STOP", "Stopped (signal)"),
   ("TSTP", "Stopped"), ("TTIN", "Stopped (tty input)"), ("TTOU", "Stopped (tty output)"), ("URG", "Urgent I/O condition"),
   ("XCPU", "CPU time limit exceeded"), ("XFSZ", "File size limit exceeded"), ("VTALRM", "Virtual timer expired"),
   ("PROF", "Profiling timer expired"), ("WINCH", "Window changed"), ("IO", "I/O possible"), ("PWR", "Power failure"),
   ("SYS", "Bad system call")]

/-- The signals that do nothing by themselves. -/
def quietSignals : List Nat := [17, 18, 19, 20, 21, 22, 23, 28]

/-- The number of a signal by number or name; the end of the script is number zero. -/
def signalNumber? (b : Bytes) : Option Nat :=
  let upper := b.map fun x => if byte 'a' ≤ x && x ≤ byte 'z' then x - 0x20 else x
  match Program.number? b with
  | some n => if n ≤ 64 then some n else none
  | none => if upper = text "EXIT" then some 0 else (signals.findIdx? fun s => text s.1 = upper).map (· + 1)

/-- The name of a signal. -/
def signalName (n : Nat) : Bytes :=
  if n = 0 then text "EXIT" else ((signals[n - 1]?).map fun s => text s.1).getD (Bytes.ofNat n)

namespace Step

/-- Complains about a command of the interpreter itself and sets its status. -/
def refuse (command : String) (status : Int) (detail : Bytes) : Step Unit := do
  complain (text command ++ text ": " ++ detail)
  setStatus status

/-- Complains about a command whose failure ends the script. -/
def refuseForGood (command : String) (detail : Bytes) : Step Unit := do
  refuse command 2 detail
  jump (.leave (.code 2))

/-- Lets the script get a signal. A copy of the script passes it on. -/
def receive (n : Nat) : Step Unit := do
  let s ← get
  if n = 0 ∨ quietSignals.elem n then return
  match if n = 9 then none else (s.outerTraps.getD s.traps).lookup n with
  | some action => if !action.isEmpty then set { s with pending := s.pending ++ [n] }
  | none => jump (.die n)

/-- Sends a signal to the processes with the given numbers. -/
def killAll (n : Nat) : List Bytes → Step Unit
  | [] => return
  | a :: rest => do
    match Program.number? (if a.head? = some (byte '-') then a.tail else a) with
    | none => refuse "kill" 2 (text "Illegal number: " ++ a)
    | some p =>
      if p = selfId then receive n
      else if (← get).jobs.any (·.1 = p) then
        modify fun s => { s with jobs := s.jobs.map fun j => if j.1 = p ∧ n ≠ 0 then (p, 128 + n) else j }
      else refuse "kill" 1 (text "No such process\n")
      killAll n rest

/-- Sends signals. -/
def kill (args : List Bytes) : Step Unit := do
  let usage : Step Unit := refuse "kill" 2
    (text "Usage: kill [-s sigspec | -signum | -sigspec] [pid | job]... or\nkill -l [exitstatus]")
  let send (signal : Option Nat) (targets : List Bytes) (wrong : Step Unit) : Step Unit := do
    match signal with
    | none => wrong
    | some n => if targets.isEmpty then usage else killAll n targets
  setStatus 0
  match args with
  | [] => usage
  | a :: rest =>
    if a = text "-l" then
      match rest with
      | [] => emit 1 ((text "0" :: signals.map fun s => text s.1).flatMap (· ++ text "\n"))
      | b :: _ =>
        match Program.number? b with
        | some n => emit 1 (signalName (n % 128) ++ text "\n")
        | none => refuse "kill" 2 (text "Illegal number: " ++ b)
    else if a = text "-s" then
      match rest with
      | [] => usage
      | b :: targets => send (signalNumber? b) targets (refuse "kill" 2 (text "invalid signal number or name: " ++ b))
    else if a = text "--" then send (some 15) rest usage
    else if a.head? = some (byte '-') then
      send (signalNumber? a.tail) rest (refuse "kill" 2 (text "Illegal option -" ++ a.tail.take 1))
    else send (some 15) args usage

/-- A text in quotes that a shell reads back. -/
def inQuotes (b : Bytes) : Bytes :=
  text "'" ++ b.flatMap (fun c => if c == byte '\'' then text "'\"'\"'" else [c]) ++ text "'"

/-- Tells what is done on signals, or says what shall be done. -/
def trap (args : List Bytes) : Step Unit := do
  setStatus 0
  match args with
  | [] =>
    for t in (← get).traps.mergeSort (fun a b => a.1 ≤ b.1) do
      emit 1 (text "trap -- " ++ inQuotes t.2 ++ text " " ++ signalName t.1 ++ text "\n")
  | [a] => forget a
  | action :: names =>
    for n in names do
      if action = text "-" then forget n
      else
        match signalNumber? n with
        | some k => modify fun s => { s with traps := (k, action) :: s.traps.filter (·.1 ≠ k) }
        | none => wrong n
where
  /-- A signal that there is not. -/
  wrong (n : Bytes) : Step Unit := do
    emit 2 (text "trap: " ++ n ++ text ": bad trap\n")
    setStatus 1
  /-- Does with a signal what is done by itself. -/
  forget (n : Bytes) : Step Unit := do
    match signalNumber? n with
    | some k => modify fun s => { s with traps := s.traps.filter (·.1 ≠ k) }
    | none => wrong n

/-! ## The surroundings -/

/-- Changes the working directory. -/
def cd (args : List Bytes) : Step Unit := do
  let s ← get
  let args := if args.head? = some (text "--") then args.tail else args
  let target := match args.head? with
    | none => (s.lookup? (text "HOME")).getD []
    | some a => if a = text "-" then (s.lookup? (text "OLDPWD")).getD s.surroundings.cwd.render else a
  let e := s.surroundings
  setStatus 0
  if target.isEmpty then return
  match e.disk.resolve e.cwd target with
  | .ok (.dir p) =>
    modify fun s => { s with surroundings := { s.surroundings with cwd := p } }
    modify fun s => s.setVariable (text "OLDPWD") e.cwd.render
    if args.head? = some (text "-") then emit 1 (p.render ++ text "\n")
  | _ => refuse "cd" 2 (text "can't cd to " ++ target)

/-- The name and the value in an argument such as `name=value`. -/
def binding (a : Bytes) : Bytes × Option Bytes :=
  let name := a.takeWhile (· ≠ byte '=')
  (name, if a.elem (byte '=') then some (a.drop (name.length + 1)) else none)

/-- The variables with their names in order. -/
def listing (command : String) (vs : Variables) : Step Unit := do
  for v in vs.mergeSort (fun a b => Bytes.le a.1 b.1) do
    emit 1 (text command ++ text " " ++ v.1 ++ text "=" ++ inQuotes v.2 ++ text "\n")

/-- Makes variables ones that programs are given. -/
def exportAll (args : List Bytes) : Step Unit := do
  setStatus 0
  let args := args.filter fun a => a ≠ text "-p" ∧ a ≠ text "--"
  if args.isEmpty then listing "export" (← get).surroundings.environment
  for a in args do
    let (name, value) := binding a
    if !isName name then refuseForGood "export" (name ++ text ": bad variable name"); break
    let s ← get
    match value with
    | some v => if s.fixed.elem name then abort (text "export: " ++ name ++ text ": is read only") else set (s.exportVariable name v)
    | none =>
      match s.lookup? name with
      | some v => set (s.exportVariable name v)
      | none => pure ()

/-- Makes variables keep their values. -/
def fixAll (args : List Bytes) : Step Unit := do
  setStatus 0
  let args := args.filter fun a => a ≠ text "-p" ∧ a ≠ text "--"
  let s ← get
  if args.isEmpty then listing "readonly" (s.fixed.map fun n => (n, (s.lookup? n).getD []))
  for a in args do
    let (name, value) := binding a
    if !isName name then refuseForGood "readonly" (name ++ text ": bad variable name"); break
    if let some v := value then assign name v
    modify fun s => { s with fixed := if s.fixed.elem name then s.fixed else s.fixed ++ [name] }

/-- Takes variables or functions away. -/
def unset (args : List Bytes) : Step Unit := do
  setStatus 0
  let functions := args.head? = some (text "-f")
  for name in args.filter fun a => a ≠ text "-f" ∧ a ≠ text "-v" ∧ a ≠ text "--" do
    if functions then modify fun s => { s with functions := s.functions.filter (·.1 ≠ name) }
    else if !isName name then refuseForGood "unset" (name ++ text ": bad variable name"); break
    else if (← get).fixed.elem name then refuseForGood "unset" (name ++ text ": is read only"); break
    else modify (·.unsetVariable name)

/-- Gives variables their values back when the function is over. -/
def localAll (args : List Bytes) : Step Unit := do
  setStatus 0
  for a in args do
    let (name, value) := binding a
    let s ← get
    match s.saved with
    | [] => refuseForGood "local" (text "not in a function"); break
    | frame :: frames =>
      let frame := if frame.any (·.1 = name) then frame else (name, s.lookup? name) :: frame
      set { s with saved := frame :: frames }
      if let some v := value then assign name v

/-! ## Options and arguments -/

/-- The letters of the options, and their long names. -/
def optionNames : List (Char × String) :=
  [('e', "errexit"), ('f', "noglob"), ('I', "ignoreeof"), ('i', "interactive"), ('m', "monitor"), ('n', "noexec"),
   ('s', "stdin"), ('x', "xtrace"), ('v', "verbose"), ('V', "vi"), ('E', "emacs"), ('C', "noclobber"),
   ('a', "allexport"), ('b', "notify"), ('u', "nounset")]

/-- Turns an option on or off. -/
def setOption (on : Bool) (c : Char) : Step Unit := modify fun s =>
  { s with options := if on then (if s.options.elem c then s.options else s.options ++ [c]) else s.options.filter (· ≠ c) }

/-- Sets options and arguments. `fuel` bounds the number of arguments. -/
def setAll : Nat → List Bytes → Step Unit
  | 0, _ => return
  | _, [] => return
  | fuel + 1, a :: rest => do
    let on := a.head? = some (byte '-')
    if a = text "--" then modify fun s => { s with args := rest }
    else if (on ∨ a.head? = some (byte '+')) ∧ 1 < a.length then
      if a.tail = text "o" then
        match rest with
        | [] => return
        | n :: rest =>
          match optionNames.find? fun o => text o.2 = n with
          | some o => setOption on o.1; setAll fuel rest
          | none => refuseForGood "set" (text "Illegal option -o " ++ n)
      else
        match a.tail.find? fun b => !optionNames.any fun o => byte o.1 == b with
        | some b => refuseForGood "set" (text "Illegal option -" ++ [b])
        | none =>
          for o in optionNames do
            if a.tail.elem (byte o.1) then setOption on o.1
          setAll fuel rest
    else modify fun s => { s with args := a :: rest }

/-- Drops arguments from the front. -/
def shift (args : List Bytes) : Step Unit := do
  setStatus 0
  let count := args.headD (text "1")
  match Program.number? count with
  | none => refuseForGood "shift" (text "Illegal number: " ++ count)
  | some n =>
    let s ← get
    if s.args.length < n then refuseForGood "shift" (text "can't shift that many")
    else set { s with args := s.args.drop n }

/-! ## Reading -/

/-- The first line of an input, whether it is whole, and what is left. Unless the line is `raw`, a backslash
quotes the next byte and joins two lines. -/
def firstLine (raw : Bool) : Bytes → List Mark × Bool × Bytes
  | [] => ([], false, [])
  | b :: rest =>
    if b == byte '\n' then ([], true, rest)
    else if b == byte '\\' && !raw then
      match rest with
      | c :: rest =>
        let (line, whole, left) := firstLine raw rest
        (if c == byte '\n' then line else (c, true) :: line, whole, left)
      | [] => ([], false, [])
    else
      let (line, whole, left) := firstLine raw rest
      ((b, false) :: line, whole, left)

/-- The values that variables get from a line, the last of which takes what is left of it. -/
def lineValues (divides : Bytes) : List Bytes → List Mark → List (Bytes × Bytes)
  | [], _ => []
  | name :: names, line =>
    let isDivider (m : Mark) : Bool := !m.2 && divides.elem m.1
    let isGap (m : Mark) : Bool := isDivider m && (isSpaceByte m.1 || m.1 == byte '\n')
    if names.isEmpty then [(name, ((line.reverse.dropWhile isGap).reverse).map (·.1))]
    else
      let field := line.takeWhile fun m => !isDivider m
      let after := (line.drop field.length).dropWhile isGap
      let after := match after with
        | m :: rest => if isDivider m then rest else after
        | [] => []
      (name, field.map (·.1)) :: lineValues divides names (after.dropWhile isGap)

/-- Takes note that the standard input has been read, and of what is left of it. -/
def consume (left : Input) : Step Unit := modify fun s =>
  { s with surroundings := { s.surroundings with stdin := left }, readStdin := s.readStdin || s.input == 0 }

/-- Reads a line into variables. -/
def read (args : List Bytes) : Step Unit := do
  let raw := args.elem (text "-r")
  let prompted := args.findIdx? (· = text "-p")
  let names := (match prompted with
    | some i => args.eraseIdx (i + 1)
    | none => args).filter fun a => !Program.isOption a
  let s ← get
  match names.find? fun n => !isName n with
  | some n => refuse "read" 2 (n ++ text ": bad variable name")
  | none =>
    if names.isEmpty then refuse "read" 2 (text "arg count")
    else
      match s.surroundings.stdin with
      | .dir => setStatus 1
      | .flow f r =>
        let (line, whole, left) := firstLine raw f.bytes
        consume (.flow { f with bytes := left } r)
        let divides := (s.lookup? (text "IFS")).getD (text " \t\n")
        let isGap (m : Mark) : Bool := !m.2 && divides.elem m.1 && (isSpaceByte m.1 || m.1 == byte '\n')
        for v in lineValues divides names (line.dropWhile isGap) do assign v.1 v.2
        setStatus (if whole then 0 else 1)

/-! ## Writing -/

/-- Writes its arguments. Escapes are always read. -/
def echo (args : List Bytes) : Step Unit := do
  let (newline, args) := if args.head? = some (text "-n") then ([], args.tail) else (text "\n", args)
  let body := Bytes.join (text " ") args
  let (shown, stopped) := Tool.unescape true (body.length + 1) body
  setStatus 0
  emit 1 (shown ++ (if stopped then [] else newline))

/-- Tells whether a condition holds. -/
def test (command : String) (args : List Bytes) : Step Unit := do
  match Condition.holds (← get).surroundings 5 args with
  | .ok b => setStatus (if b then 0 else 1)
  | .error d => refuse command 2 d

/-- Ends loops, or begins their next round. -/
def leaveLoops (command : String) (how : Nat → Jump) (args : List Bytes) : Step Unit := do
  setStatus 0
  match Program.number? (args.headD (text "1")) with
  | none | some 0 => refuseForGood command (text "Illegal number: " ++ args.headD [])
  | some n =>
    let loops := (← get).loops
    if 0 < loops then jump (how (min n loops))

/-- The code of `exit` or `return`. -/
def codeOf (command : String) (args : List Bytes) (next : Int → Step Unit) : Step Unit := do
  match args with
  | [] => next (← get).status
  | a :: _ =>
    match Program.number? a with
    | some n => next ((n % 256 : Nat) : Int)
    | none => refuseForGood command (text "Illegal number: " ++ a)

/-- The names of the other commands of the interpreter, which run commands. -/
def runners : List Bytes := ["eval", ".", "exec", "command", "type"].map text

/-- A command of the interpreter itself. -/
def own? (name : Bytes) (args : List Bytes) : Option (Step Unit) :=
  let isNamed (s : String) : Bool := name = text s
  if isNamed ":" || isNamed "true" || isNamed "alias" || isNamed "unalias" || isNamed "hash" || isNamed "jobs" then
    some (setStatus 0)
  else if isNamed "false" then some (setStatus 1)
  else if isNamed "echo" then some (echo args)
  else if isNamed "test" then some (test "test" args)
  else if isNamed "[" then some (if args.getLast? = some (text "]") then test "[" args.dropLast
    else refuse "[" 2 (text "missing ]"))
  else if isNamed "exit" then some (codeOf "exit" args fun n => do setStatus n; jump (.leave (.code n)))
  else if isNamed "return" then some (codeOf "return" args fun n => do setStatus n; jump .goBack)
  else if isNamed "break" then some (leaveLoops "break" .leaveLoop args)
  else if isNamed "continue" then some (leaveLoops "continue" .nextRound args)
  else if isNamed "cd" then some (cd args)
  else if isNamed "pwd" then some do
    setStatus 0
    emit 1 ((← get).surroundings.cwd.render ++ text "\n")
  else if isNamed "export" then some (exportAll args)
  else if isNamed "readonly" then some (fixAll args)
  else if isNamed "unset" then some (unset args)
  else if isNamed "local" then some (localAll args)
  else if isNamed "set" then some do
    setStatus 0
    if args.isEmpty then
      let s ← get
      for v in (s.locals ++ s.surroundings.environment).mergeSort (fun a b => Bytes.le a.1 b.1) do
        emit 1 (v.1 ++ text "=" ++ inQuotes v.2 ++ text "\n")
    setAll (args.length + 1) args
  else if isNamed "shift" then some (shift args)
  else if isNamed "trap" then some (trap (if args.head? = some (text "--") then args.tail else args))
  else if isNamed "kill" then some (kill args)
  else if isNamed "read" then some (read args)
  else if isNamed "umask" then some do
    setStatus 0
    if args.isEmpty then emit 1 (text "0022\n")
  else if isNamed "wait" then some do
    let s ← get
    match args.head?.bind Program.number? with
    | none => setStatus 0
    | some p => setStatus ((s.jobs.lookup p).getD 127)
  else none

end Step

end AuditShell.World.Script
