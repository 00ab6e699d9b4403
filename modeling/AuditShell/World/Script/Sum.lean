import AuditShell.Number.Word
import AuditShell.World.Script.Token
/-!
# Expressions of command scripts

Expressions over words of 64 bits with the operators, the precedence and the assignments of C. An
expression is valued while it is read; what a condition leaves out is read without effect.
-/
namespace AuditShell.World.Script

/-- A list of variables, the first of a name counting. -/
abbrev Variables := List (Bytes × Bytes)

/-- The value of a variable. -/
def Variables.get? (vs : Variables) (name : Bytes) : Option Bytes := (vs.find? (·.1 = name)).map (·.2)

/-- Gives a variable a value. -/
def Variables.set (vs : Variables) (name value : Bytes) : Variables :=
  (name, value) :: vs.filter (·.1 ≠ name)

/-- An integer as the word with the same last 64 bits. -/
def wrap (n : Int) : Int := Int.bmod n (Nat.pow 2 64)

/-- How far an expression has been read. -/
structure Summing where
  rest : Bytes
  /-- The values that the expression has given to variables. -/
  assigned : Variables := []

/-- A step of valuing an expression. A failure is the reason. -/
abbrev Summer := StateT Summing (Except Bytes)

/-- The value of a digit of a base up to sixteen. -/
def digitValue? (base : Nat) (b : UInt8) : Option Nat :=
  let v := if isDigitByte b then some (b - byte '0').toNat
    else if byte 'a' ≤ b && b ≤ byte 'f' then some ((b - byte 'a').toNat + 10)
    else if byte 'A' ≤ b && b ≤ byte 'F' then some ((b - byte 'A').toNat + 10)
    else none
  v.filter (· < base)

/-- The number at the start of a text, hexadecimal after `0x` and octal after `0`, and what follows it. -/
def leadingNatural (b : Bytes) : Nat × Bytes :=
  let read (base : Nat) (b : Bytes) : Nat × Bytes :=
    let ds := b.takeWhile fun d => (digitValue? base d).isSome
    (ds.foldl (fun n d => n * base + (digitValue? base d).getD 0) 0, b.drop ds.length)
  match b with
  | z :: x :: rest =>
    if z == byte '0' && (x == byte 'x' || x == byte 'X') then read 16 rest
    else if z == byte '0' then read 8 b
    else read 10 b
  | _ => read 10 b

/-- The integer that a text says, with blanks around it. -/
def integer? (b : Bytes) : Option Int :=
  let isGap (x : UInt8) : Bool := isSpaceByte x || x == byte '\n'
  let b := b.dropWhile isGap
  let (negative, ds) := match b with
    | c :: rest => if c == byte '-' then (true, rest) else if c == byte '+' then (false, rest) else (false, b)
    | [] => (false, [])
  let (n, rest) := leadingNatural ds
  if ds.head?.any isDigitByte && (rest.dropWhile isGap).isEmpty then some (if negative then -n else n) else none

namespace Summer

/-- Passes blanks. -/
def passBlanks : Summer Unit :=
  modify fun s => { s with rest := s.rest.dropWhile fun b => isSpaceByte b || b == byte '\n' }

/-- The operators, longest first. -/
def operators : List Bytes :=
  ["<<=", ">>=", "&&", "||", "==", "!=", "<=", ">=", "<<", ">>", "+=", "-=", "*=", "/=", "%=", "&=", "^=", "|=", "+",
    "-", "*", "/", "%", "<", ">", "&", "^", "|", "=", "?", ":", "!", "~", "(", ")"].map text

/-- The operator that comes next. -/
def peek : Summer (Option Bytes) := do
  passBlanks
  let s ← get
  return operators.find? (·.isPrefixOf s.rest)

/-- Passes the given operator where it comes next. -/
def accept (o : String) : Summer Bool := do
  if (← peek) == some (text o) then
    modify fun s => { s with rest := s.rest.drop (text o).length }
    return true
  else return false

/-- How tightly an operator between two operands binds; zero for none. -/
def strength (o : Bytes) : Nat :=
  let levels : List (List String) := [["||"], ["&&"], ["|"], ["^"], ["&"], ["==", "!="], ["<", ">", "<=", ">="],
    ["<<", ">>"], ["+", "-"], ["*", "/", "%"]]
  match levels.findIdx? fun l => (l.map text).elem o with
  | some i => i + 1
  | none => 0

/-- One for what holds and zero otherwise. -/
def truth (b : Bool) : Int := if b then 1 else 0

/-- The bits of a word as a number. -/
def bits (n : Int) : Nat := (n % (Nat.pow 2 64 : Int)).toNat

/-- The value of an operator between two operands. -/
def apply (o : Bytes) (a b : Int) : Summer Int :=
  if o = text "+" then return wrap (a + b)
  else if o = text "-" then return wrap (a - b)
  else if o = text "*" then return wrap (a * b)
  else if o = text "/" ∨ o = text "%" then
    if b = 0 then throw (text "division by zero")
    else return wrap (if o = text "/" then Int.tdiv a b else Int.tmod a b)
  else if o = text "<<" then return wrap (a * (Nat.pow 2 (bits b % 64) : Int))
  else if o = text ">>" then return Int.fdiv a (Nat.pow 2 (bits b % 64) : Int)
  else if o = text "<" then return truth (a < b)
  else if o = text ">" then return truth (a > b)
  else if o = text "<=" then return truth (a ≤ b)
  else if o = text ">=" then return truth (a ≥ b)
  else if o = text "==" then return truth (a = b)
  else if o = text "!=" then return truth (a ≠ b)
  else if o = text "&" then return wrap (bits a &&& bits b : Nat)
  else if o = text "^" then return wrap (bits a ^^^ bits b : Nat)
  else if o = text "|" then return wrap (bits a ||| bits b : Nat)
  else if o = text "&&" then return truth (a ≠ 0 ∧ b ≠ 0)
  else return truth (a ≠ 0 ∨ b ≠ 0)

/-- The value of a variable. -/
def variableValue (lookup : Bytes → Option Bytes) (name : Bytes) : Summer Int := do
  let value := (((← get).assigned.get? name).orElse fun _ => lookup name).getD []
  if value.isEmpty then return 0
  match integer? value with
  | some n => return n
  | none => throw (text "Illegal number: " ++ value)

/-- The name of a variable that comes next. -/
def name? : Summer (Option Bytes) := do
  passBlanks
  let s ← get
  if s.rest.head?.any isNameStart then return some (s.rest.takeWhile isNameByte) else return none

/-- The operator of an assignment, without its equals sign. -/
def assigner? (o : Bytes) : Option Bytes :=
  if o = text "=" then some []
  else if ["+=", "-=", "*=", "/=", "%=", "&=", "^=", "|=", "<<=", ">>="].any fun s => text s = o then some o.dropLast
  else none

mutual

/-- An assignment or a condition. `live` says that it has its effect. -/
def assignment (lookup : Bytes → Option Bytes) (live : Bool) : Nat → Summer Int
  | 0 => throw (text "expression too deep")
  | fuel + 1 => do
    let before ← get
    match ← name? with
    | some name =>
      modify fun s => { s with rest := s.rest.drop name.length }
      match (← peek).bind assigner? with
      | some o =>
        modify fun s => { s with rest := s.rest.drop (o.length + 1) }
        let old ← if o.isEmpty || !live then pure 0 else variableValue lookup name
        let v ← assignment lookup live fuel
        if live then
          let v ← if o.isEmpty then pure v else apply o old v
          modify fun s => { s with assigned := s.assigned.set name (Bytes.ofInt v) }
          return v
        else return 0
      | none =>
        set before
        condition lookup live fuel
    | none => condition lookup live fuel

/-- A choice between two values, or a value. -/
def condition (lookup : Bytes → Option Bytes) (live : Bool) : Nat → Summer Int
  | 0 => throw (text "expression too deep")
  | fuel + 1 => do
    let c ← binary lookup live 1 fuel
    if ← accept "?" then
      let yes ← assignment lookup (live && c ≠ 0) fuel
      if !(← accept ":") then throw (text "expecting ':'")
      let no ← condition lookup (live && c = 0) fuel
      return if c ≠ 0 then yes else no
    else return c

/-- Operands with operators that bind at least as tightly as `least`. -/
def binary (lookup : Bytes → Option Bytes) (live : Bool) (least : Nat) : Nat → Summer Int
  | 0 => throw (text "expression too deep")
  | fuel + 1 => do
    let a ← primary lookup live fuel
    binaryMore lookup live least a fuel

/-- The operators and operands after the first operand. -/
def binaryMore (lookup : Bytes → Option Bytes) (live : Bool) (least : Nat) (a : Int) : Nat → Summer Int
  | 0 => throw (text "expression too deep")
  | fuel + 1 => do
    match ← peek with
    | none => return a
    | some o =>
      let s := strength o
      if s < least ∨ s = 0 then return a
      modify fun r => { r with rest := r.rest.drop o.length }
      let skipped := (o = text "&&" ∧ a = 0) ∨ (o = text "||" ∧ a ≠ 0)
      let b ← binary lookup (live && !skipped) (s + 1) fuel
      let v ← if live then apply o a b else pure 0
      binaryMore lookup live least v fuel

/-- A number, a variable, an expression in brackets, or an operator before its operand. -/
def primary (lookup : Bytes → Option Bytes) (live : Bool) : Nat → Summer Int
  | 0 => throw (text "expression too deep")
  | fuel + 1 => do
    if ← accept "(" then
      let v ← assignment lookup live fuel
      if ← accept ")" then return v else throw (text "expecting ')'")
    else if ← accept "-" then return wrap (-(← primary lookup live fuel))
    else if ← accept "+" then primary lookup live fuel
    else if ← accept "!" then return truth ((← primary lookup live fuel) = 0)
    else if ← accept "~" then return wrap (-(← primary lookup live fuel) - 1)
    else
      match ← name? with
      | some name =>
        modify fun s => { s with rest := s.rest.drop name.length }
        if live then variableValue lookup name else return 0
      | none =>
        let s ← get
        if s.rest.head?.any isDigitByte then
          let (n, rest) := leadingNatural s.rest
          set { s with rest }
          return if n < Word.half then n else Word.half - 1
        else throw (text "expecting primary")

end

end Summer

/-- The value of an expression and what it gives to variables, or the reason why it has none. -/
def sum (lookup : Bytes → Option Bytes) (e : Bytes) : Except Bytes (Int × Variables) := do
  let whole : Summer Int := do
    Summer.passBlanks
    if (← get).rest.isEmpty then return 0
    let v ← Summer.assignment lookup true (8 * e.length + 16)
    Summer.passBlanks
    if (← get).rest.isEmpty then return v else throw (text "expecting EOF")
  match whole.run { rest := e } with
  | .ok (v, s) => return (v, s.assigned)
  | .error d =>
    throw (if (text "Illegal number").isPrefixOf d then d
      else text "arithmetic expression: " ++ d ++ text ": \"" ++ e ++ text "\"")

end AuditShell.World.Script
