import AuditShell.World.Script.Run
/-!
# Programs by name

The tools and the command interpreter `sh`, by name, by the path of a directory of programs, or by the
first line of an executable file.
-/
namespace AuditShell.World

/-- The names of the programs that can be started by name. -/
def programNames : List Bytes :=
  [text "echo", text "printf", text "cat", text "tr", text "wc", text "sort", text "head", text "true",
    text "false", text "sh", text "sleep", text "ls"]

/-- The program that a path to a directory of programs names. -/
def systemProgram? (path : Bytes) : Option Bytes :=
  ([text "/bin/", text "/usr/bin/"].findSome? fun dir =>
    if dir.isPrefixOf path then some (path.drop dir.length) else none).filter programNames.contains

/-- The interpreter and the script of a file that starts with `#!`. -/
def interpreter? (content : Bytes) : Option Bytes :=
  if (text "#!").isPrefixOf content then
    let line := (content.drop 2).takeWhile (· ≠ 0x0A)
    systemProgram? ((line.dropWhile (· = 0x20)).takeWhile (· ≠ 0x20))
  else none

/-- The word after the interpreter on the first line of an executable file. -/
def interpreterArgument? (content : Bytes) : Option Bytes :=
  let line := ((content.drop 2).takeWhile (· ≠ 0x0A)).dropWhile (· = 0x20)
  let isBlank (b : UInt8) : Bool := b = 0x20 || b = 0x09
  let after := ((line.dropWhile fun b => !isBlank b).dropWhile isBlank).reverse.dropWhile isBlank
  if after.isEmpty then none else some after.reverse

/-- The arguments of the command interpreter, taken apart. -/
structure Invocation where
  options : List Char := []
  /-- Whether the first operand is the script itself. -/
  direct : Bool := false
  operands : List Bytes := []

/-- Takes the arguments of the command interpreter apart, or gives the complaint about them. -/
def Invocation.read : List Bytes → Invocation → Except Bytes Invocation
  | [], i => .ok i
  | a :: rest, i =>
    let on := a.head? = some 0x2D
    if a = text "-" ∨ a = text "--" then .ok { i with operands := rest }
    else if a = text "-o" ∨ a = text "+o" then
      match rest with
      | [] => .ok i
      | n :: rest =>
        match Script.Step.optionNames.find? fun o => text o.2 = n with
        | some o => Invocation.read rest { i with options := if on then i.options ++ [o.1] else i.options.filter (· ≠ o.1) }
        | none => .error (text "Illegal option -o " ++ n)
    else if (on ∨ a.head? = some 0x2B) ∧ 1 < a.length then
      let letters := Utf8.decode a.tail
      match letters.find? fun c => c ≠ 'c' ∧ ¬ Script.Step.optionNames.any (·.1 = c) with
      | some c => .error (text "Illegal option -" ++ Utf8.encodeChar c)
      | none =>
        let set := letters.filter (· ≠ 'c')
        Invocation.read rest { i with
          direct := i.direct || letters.elem 'c'
          options := if on then i.options ++ set else i.options.filter fun c => !set.elem c }
    else .ok { i with operands := a :: rest }

/-- Runs the command interpreter with its arguments. -/
def runInterpreter (start : Script.Starter) (e : Surroundings) (args : List Bytes) : Outcome :=
  match Invocation.read args {} with
  | .error d => Program.complains e 2 (text "sh: 0: " ++ d ++ text "\n")
  | .ok i =>
    match i.direct, i.operands with
    | true, [] => Program.complains e 2 (text "sh: 0: -c requires an argument\n")
    | true, [script] => Script.run start (text "sh") [] i.options e script
    | true, script :: name :: args => Script.run start name args i.options e script
    | false, operands =>
      if operands.isEmpty ∨ i.options.elem 's' then
        match e.stdin with
        | .flow f _ =>
          { Script.run start (text "sh") operands i.options { e with stdin := .flow {} none } f.bytes with readStdin := true }
        | .dir => { disk := e.disk }
      else
        let path := operands.headD []
        match Program.readPath e path with
        | .ok f => Script.run start path operands.tail i.options e f.bytes
        | .error .isDirectory => { disk := e.disk }
        | .error _ => Program.complains e 2 (text "sh: 0: cannot open " ++ path ++ text ": No such file\n")

/-- Runs a program by name or path; nothing where there is none. `fuel` bounds how deep scripts call
each other. -/
def runProgram : (fuel : Nat) → Surroundings → Bytes → List Bytes → Option Outcome
  | 0, _, _, _ => none
  | fuel + 1, e, name, args =>
    if name.elem 0x2F then
      match systemProgram? name with
      | some n => if n = text "sh" then some (runInterpreter (runProgram fuel) e args)
        else (Tool.named? n).map fun t => t e args
      | none =>
        match e.disk.resolve e.cwd name with
        | .ok (.file _ content true) =>
          let args := (interpreterArgument? content).toList ++ name :: args
          match interpreter? content with
          | some i =>
            if i = text "sh" then some (runInterpreter (runProgram fuel) e args)
            else (Tool.named? i).map fun t => t e args
          | none => none
        | _ => none
    else if name = text "sh" then some (runInterpreter (runProgram fuel) e args)
    else (Tool.named? name).map fun t => t e args

end AuditShell.World
