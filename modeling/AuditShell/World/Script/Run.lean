import AuditShell.World.Script.Expand
import AuditShell.World.Script.Own
import AuditShell.World.Script.Parse
/-!
# Running command scripts

A script is read and run line by line. Programs are started by a function from their name and
arguments to what they leave; a program does all its work at once, so the commands of a pipeline run
one after the other, and what runs in the background is over when the next command begins.
-/
namespace AuditShell.World.Script

/-- What a program leaves, by its name and arguments; nothing where there is no such program. -/
abbrev Starter := Surroundings → Bytes → List Bytes → Option Outcome

namespace Step

/-! ## Redirects -/

/-- Opens a file for writing, or says why not. -/
def openFile (append : Bool) (path : Bytes) : Step (Except Bytes Goal) := do
  let s ← get
  let e := s.surroundings
  let create (p : Place) (n : Node) : Step (Except Bytes Goal) := do
    set { s with surroundings := { e with disk := e.disk.put p n } }
    return .ok (.file p)
  if path = text "/dev/null" then return .ok .nowhere
  else if path = text "/dev/stdout" then return .ok (← goal 1)
  else if path = text "/dev/stderr" then return .ok (← goal 2)
  else
    match e.disk.resolve e.cwd path with
    | .ok (.file p _ x) => if append then return .ok (.file p) else create p (.file [] x)
    | .ok (.missing p false) => create p (.file [] false)
    | .ok (.missing _ true) | .ok (.dir _) => return .error (text "Is a directory")
    | .error .notFound => return .error (text "Directory nonexistent")
    | .error c => return .error (Program.causeWords c)

/-- Sets what a stream reads, or says why not. Only the standard input is read. -/
def openInput (stream : Nat) (path : Bytes) : Step (Option Bytes) := do
  let e := (← get).surroundings
  let place := match e.disk.resolve e.cwd path with
    | .ok (.file p _ _) => some p
    | _ => none
  match Program.readPath e path with
  | .ok f => if stream = 0 then setInput (.flow f place)
             return none
  | .error .isDirectory => if stream = 0 then setInput .dir
                           return none
  | .error .notFound => return some (text "No such file")
  | .error c => return some (Program.causeWords c)

/-- Applies a redirect. Says what is wrong with it, if so. -/
def redirectOne (perform : Command → Step Unit) : Redirect → Step (Option Bytes)
  | .mk stream how word => do
    let target ← textOf perform word
    if ← isOver then return some []
    let write (append : Bool) : Step (Option Bytes) := do
      match ← openFile append target with
      | .ok g => setGoal stream g; return none
      | .error d => return some (text "cannot create " ++ target ++ text ": " ++ d)
    match how with
    | .write => write false
    | .append => write true
    | .read | .readWrite =>
      if let .readWrite := how then
        if let .error d := ← openFile true target then
          return some (text "cannot create " ++ target ++ text ": " ++ d)
      return (← openInput stream target).map fun d => text "cannot open " ++ target ++ text ": " ++ d
    | .same =>
      if target = text "-" then
        setGoal stream .closed
        if stream = 0 then setInput (.flow {} none)
        return none
      else
        match target with
        | [d] =>
          if !isDigitByte d then return some (text "Syntax error: Bad fd number")
          let n := (d - byte '0').toNat
          if n = 0 ∨ n = stream then return none
          match (← get).streams.lookup n with
          | some .closed | none => return some (target ++ text ": Bad file descriptor")
          | some g => setGoal stream g; return none
        | _ => return some (text "Syntax error: Bad fd number")
    | .document n =>
      let body ← textOf perform ((← get).documents.getD n [])
      if stream = 0 then setInput (.flow ⟨body, none⟩ none)
      return none

/-- Applies redirects from left to right. Complains about the first that fails, and tells whether none does. -/
def redirectAll (perform : Command → Step Unit) : List Redirect → Step Bool
  | [] => return true
  | r :: rest => do
    match ← redirectOne perform r with
    | none => redirectAll perform rest
    | some d =>
      if !(← isOver) then
        complain d
        setStatus 2
      return false

/-- Runs something with redirects, which end with it. -/
def redirected (perform : Command → Step Unit) (rs : List Redirect) (body : Step Unit) : Step Bool := do
  let s ← get
  let touched := rs.map fun r => match r with
    | .mk stream _ _ => stream
  let fine ← redirectAll perform rs
  if fine then body
  modify fun t =>
    let t := { t with
      streams := s.streams.filter (fun g => touched.elem g.1) ++ t.streams.filter (fun g => !touched.elem g.1) }
    if touched.elem 0 then
      { t with surroundings := { t.surroundings with stdin := s.surroundings.stdin }, input := s.input }
    else t
  return fine

/-! ## Programs -/

/-- Runs a program, or complains that there is none. A program that takes the place of the script ends it
as it ends itself. -/
def startProgram (start : Starter) (instead : Bool) (name : Bytes) (args : List Bytes) : Step Unit := do
  let s ← get
  let g ← goal 1
  let stdoutFile := match g with
    | .file p => some p
    | .out => s.surroundings.stdoutFile
    | _ => none
  let missing (detail : String) (status : Int) : Step Unit := do
    complain ((if instead then text "exec: " else []) ++ name ++ text ": " ++ text detail)
    setStatus status
    if instead then jump (.leave (.code status))
  match if name.isEmpty then none else start { s.surroundings with stdoutFile } name args with
  | some o =>
    modify fun s => { s with surroundings := { s.surroundings with disk := o.disk } }
    if o.readStdin then consume (.flow {} none)
    for w in o.writes do emit (if w.1 = .out then 1 else 2) w.2
    match g with
    | .out | .buffer _ => modify fun s => { s with endless := o.endless }
    | _ => pure ()
    setStatus o.ended.status
    if instead then
      modify fun s => { s with traps := [], jump := some (.leave o.ended) }
    else
      match o.ended with
      | .signal n =>
        if n ≠ 2 ∧ n ≠ 13 then emit 2 (((signals[n - 1]?).map fun x => text x.2).getD (text "Killed") ++ text "\n")
      | _ => pure ()
  | none =>
    if name.isEmpty then missing "Permission denied" 127
    else if name.elem (byte '/') then
      match s.surroundings.disk.resolve s.surroundings.cwd name with
      | .ok (.file _ _ x) => if x then missing "not found" 127 else missing "Permission denied" 126
      | .ok (.dir _) => missing "Permission denied" 126
      | _ => missing "not found" 127
    else missing "not found" 127

/-- Writes by a format, with the complaints of the interpreter. -/
def printf (args : List Bytes) : Step Unit := do
  match if args.head? = some (text "--") then args.tail else args with
  | [] => refuse "printf" 2 (text "usage: printf format [arg ...]")
  | f :: rest =>
    if Program.isOption f then refuse "printf" 2 (text "Illegal option -" ++ (f.drop 1).take 1)
    else
      let p := Tool.formatAll .interpreter (rest.length + 1) f { args := rest }
      emit 1 p.out
      for m in p.mistakes do complain (text "printf: " ++ m.shortWords)
      setStatus (if p.mistakes.isEmpty then 0 else if p.mistakes.any (·.isFatal) then 2 else 1)

/-- How a command would be found, if it would. -/
def foundAs (start : Starter) (name : Bytes) : Step (Option (Bytes × Bytes)) := do
  let s ← get
  if Token.keywords.elem name then return some (name, text "a shell keyword")
  else if s.functions.any (·.1 = name) then return some (name, text "a shell function")
  else if (own? name []).isSome || runners.elem name || name = text "printf" then
    let special := if specialNames.elem name then text "a special shell builtin" else text "a shell builtin"
    return some (name, special)
  else if name.elem (byte '/') then
    match s.surroundings.disk.resolve s.surroundings.cwd name with
    | .ok (.file _ _ true) => return some (name, name)
    | _ => return none
  else if (start s.surroundings name [text "--help"]).isSome then
    return some (text "/usr/bin/" ++ name, text "/usr/bin/" ++ name)
  else return none

/-- Tells what commands are. -/
def describe (start : Starter) (names : List Bytes) : Step Unit := do
  setStatus 0
  for n in names do
    match ← foundAs start n with
    | some (_, kind) => emit 1 (n ++ text " is " ++ kind ++ text "\n")
    | none =>
      emit 1 (n ++ text ": not found\n")
      setStatus 127

/-- Tells where commands are found. -/
def locate (start : Starter) (names : List Bytes) : Step Unit := do
  setStatus 0
  for n in names do
    match ← foundAs start n with
    | some (path, _) => emit 1 (path ++ text "\n")
    | none => setStatus 127

/-! ## Commands -/

/-- How often a loop goes round at most. -/
def maxRounds : Nat := 1000000

/-- Takes note of the end of a loop's body. Tells whether the loop goes on. -/
def afterRound : Step Bool := do
  match (← get).jump with
  | none => return true
  | some (.leaveLoop n) =>
    modify fun s => { s with jump := if n ≤ 1 then none else some (.leaveLoop (n - 1)) }
    return false
  | some (.nextRound n) =>
    modify fun s => { s with jump := if n ≤ 1 then none else some (.nextRound (n - 1)) }
    return n ≤ 1
  | some _ => return false

/-- Goes round a loop, at most a number of times, and gives how its body ended last. -/
def rounds (holds : Bool) (condition body : Step Unit) : Nat → (last : Int) → Step Int
  | 0, last => return last
  | n + 1, last => do
    condition
    if !(← afterRound) then return last
    if ((← get).status == 0) != holds then return last
    body
    let last := (← get).status
    if ← afterRound then rounds holds condition body n last else return last

/-- Ends the script where a command has failed and its failure is not looked at. -/
def checkFailure (tested : Bool) : Step Unit := do
  let s ← get
  if s.status ≠ 0 ∧ s.options.elem 'e' ∧ ¬ tested ∧ s.jump.isNone then jump (.leave (.code s.status))

/-- Writes what is about to be run, where that is asked for. -/
def trace (given : List (Bytes × Bytes)) (words : List Bytes) : Step Unit := do
  let s ← get
  if s.options.elem 'x' then
    let said := given.map (fun a => a.1 ++ text "=" ++ a.2) ++ words
    emit 2 ((s.lookup? (text "PS4")).getD [] ++ Bytes.join (text " ") said ++ text "\n")

/-- Runs something with variables that are then as before. -/
def withVariables (given : List (Bytes × Bytes)) (exported : Bool) (body : Step Unit) : Step Unit := do
  let before ← get
  for a in given do
    assign a.1 a.2
    if exported then modify (·.exportVariable a.1 a.2)
  if ← isOver then return
  body
  modify fun s => given.foldl (fun s a =>
    let s := s.unsetVariable a.1
    match before.locals.get? a.1, before.surroundings.environment.lookup a.1 with
    | some v, _ => s.setVariable a.1 v
    | none, some v => s.exportVariable a.1 v
    | none, none => s) s

/-- Runs the body of a function with its arguments. -/
def call (args : List Bytes) (body : Step Unit) : Step Unit := do
  let s ← get
  if 1000 ≤ s.saved.length then abort (text "Maximum function recursion depth (1000) reached")
  else
    set { s with args, loops := 0, saved := [] :: s.saved }
    body
    let t ← get
    let restored := (t.saved.headD []).foldl (fun (t : State) v =>
      let t := t.unsetVariable v.1
      match v.2 with
      | some x => if s.surroundings.environment.any (·.1 = v.1) then t.exportVariable v.1 x else t.setVariable v.1 x
      | none => t) t
    set { restored with
      args := s.args
      loops := s.loops
      saved := s.saved
      jump := if t.jump = some Jump.goBack then none else t.jump }

/-- Expands assignments and makes them, one after the other. -/
def givenValues (perform : Command → Step Unit) : List (Bytes × Word) → Step (List (Bytes × Bytes))
  | [] => return []
  | (name, w) :: rest => do
    let v ← textOf perform w
    if ← isOver then return []
    return (name, v) :: (← givenValues perform rest)

/-- Runs an assignment without a command, which lasts. Later assignments see earlier ones. -/
def assignAll (perform : Command → Step Unit) : List (Bytes × Word) → Step Unit
  | [] => return
  | (name, w) :: rest => do
    let v ← textOf perform w
    if ← isOver then return
    trace [(name, v)] []
    assign name v
    if ← isOver then return
    assignAll perform rest

/-- Runs a loop's body for each of some words. -/
def eachWord (name : Bytes) (body : Step Unit) : List Bytes → Step Unit
  | [] => return
  | w :: ws => do
    assign name w
    if ← isOver then return
    body
    if ← afterRound then eachWord name body ws else return

/-- The first arm with a pattern that a text matches. -/
def chosenArm (perform : Command → Step Unit) (b : Bytes) :
    List (List Word × Option Command) → Step (Option (Option Command))
  | [] => return none
  | (ps, c) :: rest => do
    for p in ps do
      let g := pattern (← markedText perform p)
      if ← isOver then return none
      if Glyph.matchesText g b then return some c
    chosenArm perform b rest

/-- Runs the stages of a pipeline, each with what the one before it wrote as its input. -/
def pipe (stage : Command → Step Unit) : Option Input → List Command → Step Unit
  | _, [] => return
  | input, c :: rest => do
    let body : Step Unit := do
      if let some i := input then setInput i
      stage c
    if rest.isEmpty then inCopy body
    else
      let out ← holdBack body
      let s ← get
      set { s with endless := none }
      if ← isOver then return
      pipe stage (some (.flow ⟨out, s.endless⟩ none)) rest

/-- The commands of the interpreter that are found before functions. -/
def isSpecial (name : Bytes) : Bool := specialNames.elem name

mutual

/-- Runs a command. `tested` says that its failure is looked at. -/
def exec (start : Starter) : Nat → (tested : Bool) → Command → Step Unit
  | 0, _, _ => abort (text "Commands nested too deep")
  | fuel + 1, tested, c => do
    let s ← get
    if s.jump.isSome ∨ s.endless.isSome ∨ s.options.elem 'n' then return
    let perform : Command → Step Unit := inner start fuel
    match c with
    | .simple line given words redirects =>
      set { s with line, inner := none }
      let ws ← expand perform words
      if ← isOver then return
      match ws with
      | [] =>
        setStatus 0
        if ← redirected perform redirects (assignAll perform given) then
          if !(← isOver) then setStatus ((← get).inner.getD 0)
      | name :: args =>
        let run : Step Unit := do
          let values ← givenValues perform given
          if ← isOver then return
          trace values ws
          modify fun s => { s with line }
          if isSpecial name then
            for a in values do assign a.1 a.2
            if ← isOver then return
            match own? name args with
            | some o => o
            | none => runner start fuel tested name args
          else
            match s.functions.lookup name, own? name args with
            | some body, _ => withVariables values true (call args (exec start fuel tested body))
            | none, some o => withVariables values false o
            | none, none =>
              if runners.elem name then withVariables values true (runner start fuel tested name args)
              else if name = text "printf" then withVariables values false (printf args)
              else withVariables values true (startProgram start false name args)
        if name = text "exec" ∧ args.isEmpty then
          setStatus 0
          if !(← redirectAll perform redirects) then jump (.leave (.code 2))
        else
          let fine ← redirected perform redirects run
          if !fine ∧ isSpecial name ∧ !(← isOver) then jump (.leave (.code 2))
      handleSignals start fuel
      checkFailure tested
    | .pipeline stages =>
      pipe perform none stages
      handleSignals start fuel
      checkFailure tested
    | .subshell c =>
      inCopy (perform c)
      handleSignals start fuel
      checkFailure tested
    | .background c =>
      inCopy do
        setInput (.flow {} none)
        perform c
      modify fun s => { s with jobs := (selfId + 1 + s.jobs.length, s.status) :: s.jobs, status := 0 }
    | .redirected c rs =>
      if !(← redirected perform rs (exec start fuel tested c)) then checkFailure tested
    | .sequence a b =>
      exec start fuel tested a
      exec start fuel tested b
    | .negated c =>
      exec start fuel true c
      if !(← isOver) then setStatus (if (← get).status = 0 then 1 else 0)
    | .both a b =>
      exec start fuel true a
      if (← get).status = 0 then exec start fuel tested b
    | .either a b =>
      exec start fuel true a
      if (← get).status ≠ 0 then exec start fuel tested b
    | .choice condition yes no =>
      exec start fuel true condition
      if ← isOver then return
      if (← get).status = 0 then exec start fuel tested yes
      else
        match no with
        | some c => exec start fuel tested c
        | none => setStatus 0
    | .loop holds condition body =>
      modify fun s => { s with loops := s.loops + 1 }
      let last ← rounds holds (exec start fuel true condition) (exec start fuel tested body) maxRounds 0
      modify fun s => { s with loops := s.loops - 1 }
      if !(← isOver) then setStatus last
    | .each line name words body =>
      set { s with line }
      let ws ← expand perform words
      if ← isOver then return
      setStatus 0
      modify fun s => { s with loops := s.loops + 1 }
      eachWord name (exec start fuel tested body) ws
      modify fun s => { s with loops := s.loops - 1 }
    | .select word arms =>
      let b ← textOf perform word
      if ← isOver then return
      setStatus 0
      match ← chosenArm perform b arms with
      | some (some c) => exec start fuel tested c
      | _ => return
    | .define name body =>
      set { s with functions := (name, body) :: s.functions.filter (·.1 ≠ name), status := 0 }

/-- Runs a command in a copy of the script, to the end of the copy. -/
def inner (start : Starter) : Nat → Command → Step Unit
  | 0, _ => abort (text "Commands nested too deep")
  | fuel + 1, c => do
    exec start fuel false c
    atEnd start fuel

/-- Runs the lines of a text. `origin` stands in complaints about it. -/
def lines (start : Starter) (origin : Bytes) : Nat → Source → Step Unit
  | 0, _ => abort (text "Commands nested too deep")
  | fuel + 1, source => do
    match nextCommand { source with documents := (← get).documents } with
    | .error m =>
      modify fun s => { s with line := m.line }
      abort (origin ++ text "Syntax error: " ++ m.detail)
    | .ok (c, rest) =>
      modify fun s => { s with documents := rest.documents }
      if let some c := c then exec start fuel false c
      let isLast := rest.rest.isEmpty && !rest.pushed
      let ended : Bool := match rest.last with
        | .finish => rest.pushed
        | _ => isLast
      if ended ∨ (← isOver) then return
      lines start origin fuel rest

/-- Runs what is to be done on the signals that have come. -/
def handleSignals (start : Starter) : Nat → Step Unit
  | 0 => return
  | fuel + 1 => do
    let s ← get
    match s.pending, s.jump.isSome || s.outerTraps.isSome with
    | n :: rest, false =>
      set { s with pending := rest }
      lines start [] fuel { rest := (s.traps.lookup n).getD [], line := s.line }
      if !(← isOver) then setStatus s.status
      handleSignals start fuel
    | _, _ => return

/-- Runs what is to be done at the end of the script. -/
def atEnd (start : Starter) : Nat → Step Unit
  | 0 => return
  | fuel + 1 => do
    let s ← get
    match s.traps.lookup 0, s.jump with
    | _, some (.die _) => return
    | some action, j =>
      if action.isEmpty then return
      set { s with traps := s.traps.filter (·.1 ≠ 0), jump := none, status := s.code }
      lines start [] fuel { rest := action, line := s.line }
      modify fun t => match t.jump with
        | some (.leave _) | some (.die _) => t
        | _ => { t with status := s.code, jump := j }
    | none, _ => return

/-- Runs a command of the interpreter that runs other commands. -/
def runner (start : Starter) : Nat → (tested : Bool) → Bytes → List Bytes → Step Unit
  | 0, _, _, _ => abort (text "Commands nested too deep")
  | fuel + 1, tested, name, args => do
    if name = text "eval" then
      setStatus 0
      lines start (text "eval: ") fuel { rest := Bytes.join (text " ") args, line := (← get).line }
    else if name = text "." then
      let e := (← get).surroundings
      match args with
      | [] => setStatus 0
      | path :: _ =>
        match e.disk.resolve e.cwd path with
        | .ok (.file _ content _) =>
          if path.elem (byte '/') then
            setStatus 0
            let line := (← get).line
            lines start [] fuel { rest := content }
            modify fun s => { s with line, jump := if s.jump = some Jump.goBack then none else s.jump }
          else refuseForGood "." (path ++ text ": not found")
        | _ => refuseForGood "." (if path.elem (byte '/') then text "cannot open " ++ path ++ text ": No such file"
          else path ++ text ": not found")
    else if name = text "exec" then
      match args with
      | [] => setStatus 0
      | program :: rest => startProgram start true program rest
    else if name = text "type" then describe start args
    else
      match args with
      | [] => setStatus 0
      | a :: rest =>
        if a = text "-v" then locate start rest
        else if a = text "-V" then describe start rest
        else if a = text "--" ∨ a = text "-p" then runner start fuel tested name rest
        else
          match own? a rest with
          | some o => o
          | none =>
            if runners.elem a then runner start fuel tested a rest
            else if a = text "printf" then printf rest
            else startProgram start false a rest

end

/-- How deep commands may stand inside each other. -/
def maxDepth : Nat := 10000

end Step

/-- Runs a script with its name, its arguments and its options. -/
def run (start : Starter) (name : Bytes) (args : List Bytes) (options : List Char) (e : Surroundings)
    (script : Bytes) : Outcome :=
  let whole : Step Unit := do
    Step.lines start [] Step.maxDepth { rest := script }
    Step.atEnd start Step.maxDepth
  let (_, s) := StateT.run whole { name, args, surroundings := e, options }
  { writes := s.writes.reverse
    endless := s.endless
    readStdin := s.readStdin
    disk := s.surroundings.disk
    ended := match s.jump with
      | some (.die n) => .signal n
      | some (.leave e) => e
      | _ => .code s.status }

end AuditShell.World.Script
