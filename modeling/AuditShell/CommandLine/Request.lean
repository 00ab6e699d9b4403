import AuditShell.CommandLine.Flag
/-!
# What a command line asks for

The words of a command line name a command and give it flags, in any order. A flag that the search
for the command does not know is taken to have a value. After `--` there are no more flags.
-/
namespace AuditShell.CommandLine

/-- The values of the flags. -/
structure Options where
  line : Option Bytes := none
  config : Option Bytes := none
  debug : Bool := false
  version : Bool := false
  lines : Int := Audit.Log.defaultTail
  idleTimeout : Int := 0
  deriving DecidableEq, Repr

/-- A command with its options. -/
structure Request where
  command : Command
  options : Options
  deriving DecidableEq, Repr

/-! ## Finding the command -/

/-- The byte that starts a flag. -/
def dash : UInt8 := 0x2D

/-- The byte between a flag and its value. -/
def equals : UInt8 := 0x3D

/-- Whether an argument is a flag that has the next argument for its value. -/
def takesNext (flags : List Flag) (arg : Bytes) : Bool :=
  if arg.elem equals then false
  else
    match arg with
    | 0x2D :: 0x2D :: name => !flags.any fun f => f.name = name && f.isSwitch
    | [0x2D, letter] => !flags.any fun f => f.letter? = some letter && f.isSwitch
    | _ => false

/-- The first argument that is no flag and no value of one, with its position. A value that is the
last argument ends the search. -/
def firstWord (flags : List Flag) : (position : Nat) → List Bytes → Option (Bytes × Nat)
  | _, [] => none
  | i, arg :: rest =>
    if arg = [dash, dash] then none
    else if takesNext flags arg then
      match rest with
      | _ :: next :: more => firstWord flags (i + 2) (next :: more)
      | _ => none
    else if arg = [] ∨ arg.head? = some dash then firstWord flags (i + 1) rest
    else some (arg, i)

/-- The command that the arguments name, and the arguments without its name. `fuel` bounds how deep
commands lie below each other. -/
def findCommand : (fuel : Nat) → Command → List Bytes → Command × List Bytes
  | 0, c, args => (c, args)
  | fuel + 1, c, args =>
    match firstWord c.searchFlags 0 args with
    | none => (c, args)
    | some (word, i) =>
      match c.children.lookup word with
      | some child => findCommand fuel child (args.eraseIdx i)
      | none => (c, args)

/-! ## Reading the flags -/

/-- Gives a flag a value. -/
def Options.set (o : Options) (f : Flag) (value : Bytes) : Except UsageError Options :=
  let fault (x : ValueFault) : UsageError := .badValue f value x
  let truth : Except UsageError Bool :=
    match truth? value with
    | some b => .ok b
    | none => .error (fault .notBool)
  match f with
  | .line => .ok { o with line := some value }
  | .config => .ok { o with config := some value }
  | .debug => truth.map fun b => { o with debug := b }
  | .version => truth.map fun b => { o with version := b }
  | .lines => ((Literal.parse (Utf8.decode value)).mapError (fault ∘ .notInt)).map fun n => { o with lines := n }
  | .idleTimeout => ((Duration.parse value).mapError (fault ∘ .notDuration)).map fun n => { o with idleTimeout := n }

/-- Reads a flag by its name, after the two dashes. Gives what is left of the arguments. -/
def readLong (flags : List Flag) (arg name : Bytes) (rest : List Bytes) (o : Options) :
    Except UsageError (List Bytes × Options) := do
  if name.head? = some dash ∨ name.head? = some equals then throw (.badSyntax arg)
  let key := name.takeWhile (· ≠ equals)
  match flags.find? (·.name = key) with
  | none => throw (.unknownFlag key)
  | some f =>
    if name.elem equals then return (rest, ← o.set f (name.drop (key.length + 1)))
    else if f.isSwitch then return (rest, ← o.set f (text "true"))
    else
      match rest with
      | [] => throw (.noValue arg)
      | value :: rest => return (rest, ← o.set f value)

/-- How the flags of a test run start. They are passed over. -/
def testFlag : Bytes := text "test."

/-- Reads flags by their letters. The last of them may have a value, joined to it or as the next
argument. -/
def readLetters (flags : List Flag) (rest : List Bytes) : Bytes → Options → Except UsageError (List Bytes × Options)
  | [], o => .ok (rest, o)
  | letter :: more, o =>
    if testFlag.isPrefixOf (letter :: more) then .ok (rest, o)
    else match flags.find? (·.letter? = some letter) with
    | none => .error (.unknownLetter letter (letter :: more))
    | some f =>
      match more with
      | 0x3D :: b :: value => do return (rest, ← o.set f (b :: value))
      | _ =>
        if f.isSwitch then do readLetters flags rest more (← o.set f (text "true"))
        else if more ≠ [] then do return (rest, ← o.set f more)
        else
          match rest with
          | [] => .error (.noLetterValue letter [letter])
          | value :: rest => do return (rest, ← o.set f value)

/-- Reads the arguments of a command: its options and the words that are no flags. `fuel` bounds the
number of arguments. -/
def readFlags (flags : List Flag) : (fuel : Nat) → List Bytes → Options → Except UsageError (List Bytes × Options)
  | 0, _, o => .ok ([], o)
  | _, [], o => .ok ([], o)
  | fuel + 1, arg :: rest, o => do
    match arg with
    | [0x2D, 0x2D] => return (rest, o)
    | 0x2D :: 0x2D :: name =>
      let (rest, o) ← readLong flags arg name rest o
      readFlags flags fuel rest o
    | 0x2D :: letter :: letters =>
      let (rest, o) ← readLetters flags rest (letter :: letters) o
      readFlags flags fuel rest o
    | _ =>
      let (words, o) ← readFlags flags fuel rest o
      return (arg :: words, o)

/-- What a command line asks for. Words beside the command are refused, unless only the version is
asked for. -/
def Request.parse (args : List Bytes) : Except UsageError Request := do
  let (c, rest) := findCommand 3 .shell args
  let (words, options) ← readFlags c.flags rest.length rest {}
  match words with
  | [] => return ⟨c, options⟩
  | w :: _ =>
    if options.version ∨ c = .audit then return ⟨c, options⟩
    else throw (.unknownCommand w c)

end AuditShell.CommandLine
