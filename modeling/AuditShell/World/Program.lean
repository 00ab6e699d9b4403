import AuditShell.Machine
import AuditShell.World.Disk
/-!
# Programs

What a program is: a function from its arguments and its surroundings to what it writes and how it
ends. The text tools are under `World.Tool`; `World.Script` adds the command interpreter.
-/
namespace AuditShell.World

/-- What can be read: bytes, and perhaps one byte repeated without end after them. -/
structure Flow where
  bytes : Bytes := []
  endless : Option UInt8 := none
  deriving DecidableEq, Repr

/-- What a process reads as its standard input. -/
inductive Input where
  /-- A flow. `regular` says that it is a file, at the given place. -/
  | flow (f : Flow) (regular : Option Place)
  /-- A directory, which cannot be read. -/
  | dir
  deriving DecidableEq, Repr

/-- What a program sees. -/
structure Surroundings where
  disk : Disk
  cwd : Place
  stdin : Input := .flow {} none
  /-- The place of the file that the standard output is. -/
  stdoutFile : Option Place := none
  /-- The variables that programs are given. -/
  environment : List (Bytes × Bytes) := []

/-- What a program leaves: its writes in order, what it would go on writing without end, whether it
read its standard input, and how it ended. -/
structure Outcome where
  writes : List (Stream × Bytes) := []
  endless : Option UInt8 := none
  readStdin : Bool := false
  disk : Disk
  ended : Ended := .code 0

namespace Outcome

/-- What the program wrote to a stream. -/
def written (o : Outcome) (s : Stream) : Bytes := (o.writes.filter (·.1 = s)).flatMap (·.2)

end Outcome

namespace Program

/-- A program that writes a text and ends well. -/
def prints (e : Surroundings) (out : Bytes) : Outcome := { writes := [(.out, out)], disk := e.disk }

/-- A program that complains and ends with a code. -/
def complains (e : Surroundings) (code : Int) (err : Bytes) : Outcome :=
  { writes := [(.err, err)], disk := e.disk, ended := .code code }

/-- Where to find out how a program is used. -/
def hint (name : String) : Bytes := text ("Try '" ++ name ++ " --help' for more information.\n")

/-- A wrong use of a program. -/
def misused (e : Surroundings) (name : String) (code : Int) (detail : Bytes) : Outcome :=
  complains e code (text name ++ text ": " ++ detail ++ text "\n" ++ hint name)

/-- How the tools word the failure of a request about a path. -/
def causeWords : OsError.Cause → Bytes
  | .notFound => text "No such file or directory"
  | .absent => text "No such file or directory"
  | .isDirectory => text "Is a directory"
  | .notDirectory => text "Not a directory"
  | .invalidArgument => text "Invalid argument"
  | .nameTooLong => text "File name too long"
  | .permissionDenied => text "Permission denied"

/-- What a path can be read as. -/
def readPath (e : Surroundings) (path : Bytes) : Except OsError.Cause Flow :=
  if path = text "/dev/zero" then .ok ⟨[], some 0⟩
  else if path = text "/dev/null" then .ok {}
  else if path = text "/dev/stdin" then
    match e.stdin with
    | .flow f _ => .ok f
    | .dir => .error .isDirectory
  else
    match e.disk.resolve e.cwd path with
    | .ok (.file _ content _) => .ok ⟨content, none⟩
    | .ok (.dir _) => .error .isDirectory
    | .ok (.missing _ _) => .error .notFound
    | .error c => .error c

/-- What an operand names: `-` is the standard input. -/
def readOperand (e : Surroundings) (path : Bytes) : Except OsError.Cause Flow :=
  if path = text "-" then
    match e.stdin with
    | .flow f _ => .ok f
    | .dir => .error .isDirectory
  else readPath e path

/-- The same surroundings after all of the standard input has been read. -/
def drained (e : Surroundings) : Surroundings :=
  { e with stdin := match e.stdin with
      | .flow _ regular => .flow {} regular
      | .dir => .dir }

/-- What operands name, one after the other: the standard input can be read only once. -/
def readOperands (e : Surroundings) : List Bytes → List (Bytes × Except OsError.Cause Flow)
  | [] => []
  | n :: ns => (n, readOperand e n) :: readOperands (if n = text "-" then drained e else e) ns

/-- The operands, the standard input where there are none. -/
def operands (args : List Bytes) : List Bytes := if args.isEmpty then [text "-"] else args

/-- Whether an argument is an option. -/
def isOption (a : Bytes) : Bool := a.head? = some 0x2D && a.length > 1

/-- The number that digits say. -/
def number? (b : Bytes) : Option Nat :=
  if b ≠ [] ∧ b.all fun x => 0x30 ≤ x && x ≤ 0x39 then
    some (b.foldl (fun n x => 10 * n + (x.toNat - 0x30)) 0)
  else none

/-- Why a text is no count. -/
inductive Misread where
  | invalid
  | tooLarge
  deriving DecidableEq, Repr

/-- The power of a thousand that a letter stands for. -/
def scaleOf? (b : UInt8) : Option Nat :=
  if b = 0x6B || b = 0x4B then some 1 else if b = 0x6D || b = 0x4D then some 2
  else ((text "GTPEZYRQ").findIdx? (· = b)).map (· + 3)

/-- The count that a text says: digits, and perhaps one of some units after them. A letter for a power
of 1024 stands for one of 1000 before `B`; without digits the count is one. -/
def scaled (units : String) (v : Bytes) : Except Misread Nat :=
  let b := v.dropWhile fun x => x = 0x20 || (0x09 ≤ x && x ≤ 0x0D)
  let b := if b.head? = some 0x2B then b.tail else b
  let ds := b.takeWhile fun x => 0x30 ≤ x && x ≤ 0x39
  let known (x : UInt8) : Bool := (text units).elem x
  let limit := Nat.pow 2 64
  let finish (n : Nat) (rest : Bytes) : Except Misread Nat :=
    if !rest.isEmpty then .error .invalid else if limit ≤ n then .error .tooLarge else .ok n
  let times (n : Nat) (rest : Bytes) : Except Misread Nat :=
    match rest with
    | [] => finish n []
    | x :: more =>
      if !known x then .error .invalid
      else if x = 0x62 then finish (n * 512) more
      else match scaleOf? x with
        | none => .error .invalid
        | some k =>
          let isSmall := more.head? = some 0x42 || more.head? = some 0x44
          let more := if (text "iB").isPrefixOf more then more.drop 2 else if isSmall then more.tail else more
          finish (n * Nat.pow (if isSmall then 1000 else 1024) k) more
  match number? ds with
  | some n => times n (b.drop ds.length)
  | none => if v.head?.any known then times 1 v else .error .invalid

end Program

end AuditShell.World
