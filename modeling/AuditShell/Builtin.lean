import AuditShell.Failure
import AuditShell.Number.Word
/-!
# Builtins

A builtin is a command that the shell carries out itself. What it does is a tree of actions: each
asks the shell for something and goes on with the answer. The default registry holds `cd` and
`exit`.
-/
namespace AuditShell

/-- What a builtin does. -/
inductive Action where
  /-- It is over, perhaps with a failure. -/
  | finish (failure : Option Failure)
  /-- It writes to the standard error of the line. -/
  | complain (message : Bytes) (next : Action)
  /-- It asks the shell to end with a code. -/
  | exit (code : Int) (next : Action)
  /-- It changes the working directory. -/
  | changeDir (path : Bytes) (next : Option OsError → Action)
  /-- It sends a signal to the shell's own interrupt slot. -/
  | send (signal : Signal) (next : Bool → Action)
  /-- It kills every child in the foreground. -/
  | killAll (next : Nat → Action)
  /-- It cancels the line. -/
  | cancel (next : Action)

/-- A command of the shell itself. -/
structure Builtin where
  name : Bytes
  description : Bytes
  run : List Bytes → Action

namespace Builtin

/-- A complaint that is also the failure. -/
def usage (name detail : Bytes) : Action :=
  .complain (name ++ text ": " ++ detail ++ text "\n") (.finish (some (.usage name detail)))

/-- Changes the working directory. -/
def cd : Builtin where
  name := text "cd"
  description := text "change the working directory"
  run args :=
    match args with
    | [path] => .changeDir path fun e => match e with
      | none => .finish none
      | some e => usage (text "cd") e.message
    | _ => usage (text "cd")
      (text "expected exactly one directory, got " ++ Bytes.ofNat args.length ++ text " arguments")

/-- The value of a list of decimal digits, of which there must be one. -/
def digitsValue? : Bytes → Option Nat
  | [] => none
  | ds =>
    if ds.all fun b => 0x30 ≤ b && b ≤ 0x39 then some (ds.foldl (fun n b => 10 * n + (b.toNat - 0x30)) 0)
    else none

/-- A decimal number of 64 bits with an optional sign. -/
def integer? (w : Bytes) : Option Int :=
  let n? : Option Int := match w with
    | 0x2D :: ds => (digitsValue? ds).map fun n => -(n : Int)
    | 0x2B :: ds => (digitsValue? ds).map Int.ofNat
    | ds => (digitsValue? ds).map Int.ofNat
  n?.filter Word.holds

/-- Ends the shell with a code and reports the exit where the shell goes on. -/
def leave (code : Int) : Action :=
  .complain (text "exit\n") (.exit code (.finish (some (.exit code))))

/-- Ends the shell with an optional code. -/
def exit : Builtin where
  name := text "exit"
  description := text "exit the shell with an optional status code"
  run args :=
    match args with
    | [] => leave 0
    | [w] => match integer? w with
      | some n => leave n
      | none => usage (text "exit") (w ++ text ": numeric argument required")
    | _ => usage (text "exit") (text "too many arguments")

end Builtin

/-- Builtins by name, each name once. -/
structure Registry where
  builtins : List Builtin

namespace Registry

/-- No builtins. -/
def empty : Registry := ⟨[]⟩

/-- Adds a builtin in place of one of the same name. -/
def register (r : Registry) (b : Builtin) : Registry :=
  ⟨r.builtins.filter (fun c => c.name ≠ b.name) ++ [b]⟩

/-- The builtin with a name. -/
def lookup (r : Registry) (name : Bytes) : Option Builtin := r.builtins.find? (·.name = name)

/-- All builtins in the order of their names. -/
def all (r : Registry) : List Builtin := r.builtins.mergeSort fun a b => Bytes.le a.name b.name

/-- The registry with `cd` and `exit`. -/
def default : Registry := (empty.register .cd).register .exit

end Registry

end AuditShell
