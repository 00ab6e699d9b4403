import AuditShell.World.Quote
import AuditShell.World.Program
/-!
# Options

How programs take their arguments apart. An option is a letter after a hyphen, with others in the same
word, or a name after two hyphens, which can be cut short as long as it is the start of one name only.
What an option is asked by is its letter, whichever way it was given, or its name where it has none.
-/
namespace AuditShell.World

/-- Whether an option has a value. -/
inductive Arity where
  | bare
  | valued
  /-- A value can stand after an equals sign. -/
  | optional
  deriving DecidableEq, Repr

/-- A name of an option. -/
structure LongName where
  name : String
  key : String
  arity : Arity
  deriving DecidableEq, Repr

/-- A name of an option without a value. -/
def LongName.bare (name key : String) : LongName := ⟨name, key, .bare⟩

/-- A name of an option with a value. -/
def LongName.valued (name key : String) : LongName := ⟨name, key, .valued⟩

/-- A name of an option that can have a value. -/
def LongName.optional (name key : String) : LongName := ⟨name, key, .optional⟩

/-- The options of a program. -/
structure Options where
  /-- The letters of options without a value. -/
  bare : String := ""
  /-- The letters of options with a value. -/
  valued : String := ""
  long : List LongName := []
  /-- Whether options can stand after operands. -/
  mixed : Bool := true

/-- Arguments taken apart: the options in order with their values, and the operands. -/
structure Usage where
  given : List (String × Option Bytes) := []
  operands : List Bytes := []
  /-- What is wrong with the options after the given ones. -/
  fault : Option Bytes := none
  deriving DecidableEq, Repr

namespace Usage

/-- Whether an option was given. -/
def has (u : Usage) (key : String) : Bool := u.given.any (·.1 = key)

/-- Which of some options was given last. -/
def last? (u : Usage) (keys : List String) : Option (String × Option Bytes) :=
  (u.given.filter fun g => keys.elem g.1).getLast?

/-- The value that an option was given last. -/
def value? (u : Usage) (key : String) : Option Bytes := (u.last? [key]).bind (·.2)

/-- Puts an option before the others. -/
def give (u : Usage) (key : String) (value : Option Bytes) : Usage := { u with given := (key, value) :: u.given }

end Usage

namespace Options

/-- The options that every program has. -/
def common : List LongName := [.bare "help" "help", .bare "version" "version"]

/-- The option whose name starts with a text, or what is wrong with that. -/
def resolve (o : Options) (given : Bytes) (start : Bytes) : Except Bytes LongName :=
  match o.long.find? fun l => text l.name = start with
  | some l => .ok l
  | none =>
    match o.long.filter fun l => start.isPrefixOf (text l.name) with
    | [] => .error (text "unrecognized option '--" ++ given ++ text "'")
    | l :: ls =>
      if ls.all fun m => m.key = l.key && m.arity = l.arity then .ok l
      else .error (text "option '--" ++ given ++ text "' is ambiguous; possibilities:" ++
        (l :: ls).flatMap fun m => text (" '--" ++ m.name ++ "'"))

/-- The letters of a word, up to one with a value, which is what is left of the word or else the next
argument. Gives the options, what is wrong, and the arguments that follow. -/
def letters (o : Options) (next : List Bytes) : Bytes → List (String × Option Bytes) × Option Bytes × List Bytes
  | [] => ([], none, next)
  | b :: bs =>
    let c := Char.ofNat b.toNat
    let key := String.singleton c
    if o.valued.contains c then
      if !bs.isEmpty then ([(key, some bs)], none, next)
      else match next with
        | [] => ([], some (text "option requires an argument -- '" ++ [b] ++ text "'"), [])
        | v :: next => ([(key, some v)], none, next)
    else if o.bare.contains c then
      let (given, fault, next) := letters o next bs
      ((key, none) :: given, fault, next)
    else ([], some (text "invalid option -- '" ++ [b] ++ text "'"), next)

/-- A name with its value, which stands after an equals sign or is the next argument. -/
def word (o : Options) (next : List Bytes) (given : Bytes) :
    List (String × Option Bytes) × Option Bytes × List Bytes :=
  let start := given.takeWhile (· ≠ 0x3D)
  let value := if start.length < given.length then some (given.drop (start.length + 1)) else none
  let wrong (l : LongName) (detail : String) := ([], some (text ("option '--" ++ l.name ++ "' " ++ detail)), next)
  match o.resolve given start with
  | .error d => ([], some d, next)
  | .ok l =>
    match l.arity, value, next with
    | .bare, some _, _ => wrong l "doesn't allow an argument"
    | .valued, none, [] => wrong l "requires an argument"
    | .valued, none, v :: next => ([(l.key, some v)], none, next)
    | _, value, _ => ([(l.key, value)], none, next)

/-- Takes arguments apart, up to the first fault; `--` ends the options. `fuel` bounds the number of
steps. -/
def readFrom (o : Options) : (fuel : Nat) → List Bytes → Usage
  | 0, _ => {}
  | _ + 1, [] => {}
  | fuel + 1, a :: as =>
    let after (r : List (String × Option Bytes) × Option Bytes × List Bytes) : Usage :=
      let rest : Usage := match r.2.1 with
        | some d => { fault := some d }
        | none => readFrom o fuel r.2.2
      { rest with given := r.1 ++ rest.given }
    if a = text "--" then { operands := as }
    else if (text "--").isPrefixOf a then after (o.word as (a.drop 2))
    else if a.head? = some 0x2D && a.length > 1 then after (o.letters as a.tail)
    else if o.mixed then
      let u := readFrom o fuel as
      { u with operands := a :: u.operands }
    else { operands := a :: as }

/-- Takes arguments apart. -/
def read (o : Options) (args : List Bytes) : Usage := o.readFrom (args.length + 1) args

end Options

/-- The value among those that an option can have, or the message of its program. Values can be cut
short like names; of two values for the same meaning the first is shown. -/
def Options.choose {α : Type} [DecidableEq α] (option : String) (choices : List (String × α)) (v : Bytes) :
    Except Bytes α :=
  match choices.find? fun c => text c.1 = v with
  | some c => .ok c.2
  | none =>
    let wrong (detail : String) : Except Bytes α :=
      let rows := choices.foldl (fun (acc : List (α × Bytes)) c =>
        match acc with
        | (a, row) :: more => if a = c.2 then (a, row ++ text (", '" ++ c.1 ++ "'")) :: more
          else (c.2, text ("\n  - '" ++ c.1 ++ "'")) :: acc
        | [] => [(c.2, text ("\n  - '" ++ c.1 ++ "'"))]) []
      .error (text detail ++ text " argument " ++ Quote.quote v ++ text " for " ++ Quote.quote (text option) ++
        text "\nValid arguments are:" ++ rows.reverse.flatMap (·.2))
    match choices.filter fun c => v.isPrefixOf (text c.1) with
    | [] => wrong "invalid"
    | c :: cs => if cs.all fun d => d.2 = c.2 then .ok c.2 else wrong "ambiguous"

end AuditShell.World
