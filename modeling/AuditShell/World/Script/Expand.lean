import AuditShell.World.Script.Pattern
import AuditShell.World.Script.State
/-!
# What words stand for

Parameters, commands and expressions in a word are replaced by their values. What did not stand in
quotes is then split into fields, and the fields stand for the names of files that they match.
-/
namespace AuditShell.World.Script

/-- A piece of an expanded word. -/
inductive Piece where
  /-- Bytes, and whether they are split into fields. -/
  | bytes (ms : List Mark) (split : Bool)
  /-- The boundary between two arguments. -/
  | boundary

/-- A piece with the value of something. What stood in quotes is not split. -/
def Piece.value (b : Bytes) (inQuotes : Bool) : Piece := .bytes (b.map (·, inQuotes)) (!inQuotes)

/-- The bytes of pieces that are not split. Arguments are divided by spaces. -/
def Piece.joined (ps : List Piece) : List Mark :=
  ps.flatMap fun p => match p with
    | .bytes ms _ => ms
    | .boundary => [(byte ' ', false)]

/-! ## Fields -/

/-- Fields that are being made. -/
structure Fields where
  /-- The finished fields, the last first. -/
  done : List (List Mark) := []
  /-- The field that is being made, in reverse. -/
  current : Option (List Mark) := none
  /-- Whether the last field was ended by a blank, so that one more mark belongs to the same end. -/
  blank : Bool := false

namespace Fields

/-- Ends the current field, if there is one. -/
def close (f : Fields) : Fields :=
  match f.current with
  | some c => { done := c.reverse :: f.done }
  | none => f

/-- Adds a byte that may divide fields. -/
def split (divides : Bytes) (f : Fields) (m : Mark) : Fields :=
  if divides.elem m.1 then
    if isSpaceByte m.1 || m.1 == byte '\n' then
      if f.current.isSome then { f.close with blank := true } else f
    else if f.current.isSome then f.close
    else if f.blank then { f with blank := false }
    else { f with done := [] :: f.done }
  else { f with current := some (m :: f.current.getD []), blank := false }

/-- Adds a piece. -/
def add (divides : Bytes) (f : Fields) : Piece → Fields
  | .bytes ms true => ms.foldl (split divides) f
  | .bytes ms false => { f with current := some (ms.reverse ++ f.current.getD []), blank := false }
  | .boundary => f.close

/-- The fields of pieces. -/
def of (divides : Bytes) (ps : List Piece) : List (List Mark) := (ps.foldl (add divides) {}).close.done.reverse

end Fields

namespace Step

/-! ## Words -/

/-- The pieces of the arguments. -/
def argumentPieces (all : Bool) (inQuotes : Bool) : Step (List Piece) := do
  let s ← get
  if inQuotes && all then
    let divider := ((s.lookup? (text "IFS")).getD (text " ")).take 1
    return [.value (Bytes.join divider s.args) true]
  else return (s.args.map fun a => Piece.value a inQuotes).intersperse .boundary

/-- What a command writes, without the ends of lines at its end. -/
def outputOf (perform : Command → Step Unit) (c : Command) : Step Bytes := do
  let b ← holdBack (perform c)
  modify fun s => { s with inner := some s.status }
  return ((b.filter (· ≠ 0)).reverse.dropWhile (· == byte '\n')).reverse

/-- A tilde at the start of a word as the home directory. -/
def withHome (s : State) (w : Word) : Word :=
  match w with
  | .literal (b :: rest) false :: more =>
    if b == byte '~' && (rest.head? == some (byte '/') || (rest.isEmpty && more.isEmpty)) then
      match s.lookup? (text "HOME") with
      | some home => .literal home true :: .literal rest false :: more
      | none => w
    else w
  | w => w

mutual

/-- The pieces of the parts of a word. `inBraces` says that its text may be split. -/
def pieces (perform : Command → Step Unit) (inBraces : Bool) : Nat → Word → Step (List Piece)
  | 0, _ => return []
  | _, [] => return []
  | fuel + 1, p :: rest => do
    let first ← piecesOf perform inBraces fuel p
    if ← isOver then return []
    return first ++ (← pieces perform inBraces fuel rest)

/-- The pieces of a part of a word. -/
def piecesOf (perform : Command → Step Unit) (inBraces : Bool) : Nat → Part → Step (List Piece)
  | 0, _ => return []
  | fuel + 1, p => do
    match p with
    | .literal b q => return [.bytes (b.map (·, q)) (inBraces && !q)]
    | .output c q => return [.value (← outputOf perform c) q]
    | .sum w q =>
      let e := (Piece.joined (← pieces perform false fuel w)).map (·.1)
      match sum (← get).lookup? e with
      | .ok (v, given) =>
        for a in given.reverse do assign a.1 a.2
        return [.value (Bytes.ofInt v) q]
      | .error d => abort d; return []
    | .parameter name use word q =>
      let s ← get
      let many := name = text "@" ∨ name = text "*"
      let value := if many then (if s.args.isEmpty then none else some (Bytes.join (text " ") s.args)) else s.parameter? name
      let plain : Step (List Piece) :=
        if many then argumentPieces (name = text "*") q else return [.value (value.getD []) q]
      let missing (empty : Bool) : Bool := value.isNone || (empty && value == some [])
      let unset (detail : Bytes) : Step (List Piece) := do
        abort (name ++ text ": " ++ detail)
        return []
      let strict := value.isNone && s.options.elem 'u' && !many
      match use with
      | .value => if strict then unset (text "parameter not set") else plain
      | .length =>
        if many then return [.value (Bytes.ofNat s.args.length) q]
        else if strict then unset (text "parameter not set")
        else return [.value (Bytes.ofNat (value.getD []).length) q]
      | .orWord empty => if missing empty then pieces perform true fuel word else plain
      | .thenWord empty => if missing empty then return [] else pieces perform true fuel word
      | .orSet empty =>
        if missing empty then
          let v := (Piece.joined (← pieces perform false fuel word)).map (·.1)
          if isName name then
            assign name v
            return [.value v q]
          else
            abort (name ++ text ": bad variable name")
            return []
        else plain
      | .orFail empty =>
        if missing empty then
          let v := (Piece.joined (← pieces perform false fuel word)).map (·.1)
          unset (if v.isEmpty then text "parameter not set" ++ (if empty then text " or null" else []) else v)
        else plain
      | .cut front longest =>
        let g := pattern (Piece.joined (← pieces perform false fuel word))
        let v := value.getD []
        if strict then unset (text "parameter not set")
        else return [.value (if front then cutFront longest g v else cutBack longest g v) q]
      | .bad => abort (text "Bad substitution"); return []

end

/-- How deep words may stand inside each other. -/
def wordDepth : Nat := 10000

/-- The bytes of a word that is neither split nor matched against the names of files. -/
def markedText (perform : Command → Step Unit) (w : Word) : Step (List Mark) := do
  return Piece.joined (← pieces perform false wordDepth (withHome (← get) w))

/-- The text of a word that is neither split nor matched against the names of files. -/
def textOf (perform : Command → Step Unit) (w : Word) : Step Bytes := return (← markedText perform w).map (·.1)

/-- The words that words stand for. -/
def expand (perform : Command → Step Unit) : List Word → Step (List Bytes)
  | [] => return []
  | w :: ws => do
    let ps ← pieces perform false wordDepth (withHome (← get) w)
    let s ← get
    let fields := Fields.of ((s.lookup? (text "IFS")).getD (text " \t\n")) ps
    let e := s.surroundings
    let found := if s.options.elem 'f' then fields.map fun f => f.map (·.1) else fields.flatMap (paths e.disk e.cwd)
    return found ++ (← expand perform ws)

end Step

end AuditShell.World.Script
