import AuditShell.World.Script.Token
import AuditShell.World.Tool.Substitute
/-!
# Patterns

A pattern is made of bytes, marks for any byte or any text, and sets of bytes. A byte that stood in
quotes means itself. Patterns select an arm of a `case`, cut texts, and stand for the names of files.
-/
namespace AuditShell.World.Script

/-- A byte of a word that has been expanded, and whether it stood in quotes. -/
abbrev Mark := UInt8 × Bool

/-- The bytes of a text with nothing in quotes. -/
def unquoted (b : Bytes) : List Mark := b.map (·, false)

/-- The bytes of a text in quotes. -/
def quoted (b : Bytes) : List Mark := b.map (·, true)

/-- One place of a pattern. -/
inductive Glyph where
  | byte (b : UInt8)
  | any
  | many
  /-- A byte of a set, or a byte of no such set. -/
  | set (inside : Bool) (members : Bytes)
  deriving DecidableEq, Repr

namespace Glyph

/-- The bytes from one to another. -/
def range (a b : UInt8) : Bytes := ((List.range (b.toNat + 1)).drop a.toNat).map Nat.toUInt8

/-- The class at the start of a text, and what follows it. -/
def class? (s : Bytes) : Option (Bytes × Bytes) :=
  if (text "[:").isPrefixOf s then
    let name := (s.drop 2).takeWhile (· ≠ Script.byte ':')
    let rest := s.drop (2 + name.length)
    if (text ":]").isPrefixOf rest then (Tool.classBytes? name).map (·, rest.drop 2) else none
  else none

/-- The members of a set up to its closing bracket, and what comes after it. `first` says that a bracket
here is a member. -/
def members : Nat → (first : Bool) → List Mark → Option (Bytes × List Mark)
  | 0, _, _ => none
  | _, _, [] => none
  | fuel + 1, first, (b, q) :: rest =>
    if b == Script.byte ']' && !q && !first then some ([], rest)
    else
      match class? (((b, q) :: rest).map (·.1)) with
      | some (class', after) => do
        let (ms, rest) ← members fuel false (rest.drop (rest.length - after.length))
        return (class' ++ ms, rest)
      | none =>
        match rest with
        | (d, false) :: (c, qc) :: rest' =>
          if d == Script.byte '-' && (c != Script.byte ']' || qc) then do
            let (ms, rest) ← members fuel false rest'
            return (range b c ++ ms, rest)
          else do
            let (ms, rest) ← members fuel false rest
            return (b :: ms, rest)
        | _ => do
          let (ms, rest) ← members fuel false rest
          return (b :: ms, rest)

/-- The pattern that a word means. -/
def ofMarks : Nat → List Mark → List Glyph
  | 0, _ => []
  | _, [] => []
  | fuel + 1, (b, true) :: rest => .byte b :: ofMarks fuel rest
  | fuel + 1, (b, false) :: rest =>
    if b == Script.byte '*' then .many :: ofMarks fuel rest
    else if b == Script.byte '?' then .any :: ofMarks fuel rest
    else if b == Script.byte '[' then
      let (inside, body) := match rest with
        | (c, false) :: body => if c == Script.byte '!' || c == Script.byte '^' then (false, body) else (true, rest)
        | _ => (true, rest)
      match members (body.length + 1) true body with
      | some (ms, rest) => .set inside ms :: ofMarks fuel rest
      | none => .byte b :: ofMarks fuel rest
    else .byte b :: ofMarks fuel rest

/-- Whether a byte fits a place that stands for one byte. -/
def fits (b : UInt8) : Glyph → Bool
  | .byte c => b == c
  | .any => true
  | .many => false
  | .set inside ms => ms.elem b == inside

/-- Whether a text matches a pattern. -/
def matchesText : List Glyph → Bytes → Bool
  | [], s => s.isEmpty
  | .many :: p, [] => matchesText p []
  | .many :: p, b :: s => matchesText p (b :: s) || matchesText (.many :: p) s
  | _ :: _, [] => false
  | g :: p, b :: s => g.fits b && matchesText p s
termination_by p s => p.length + s.length

/-- Whether a pattern stands for other texts than its own. -/
def isWild (p : List Glyph) : Bool := p.any fun g => match g with
  | .byte _ => false
  | _ => true

end Glyph

/-- The pattern of a word. -/
def pattern (ms : List Mark) : List Glyph := Glyph.ofMarks (ms.length + 1) ms

/-- A text without the shortest or the longest start that matches a pattern. -/
def cutFront (longest : Bool) (p : List Glyph) (s : Bytes) : Bytes :=
  let lengths := List.range (s.length + 1)
  let found := (if longest then lengths.reverse else lengths).find? fun n => Glyph.matchesText p (s.take n)
  s.drop (found.getD 0)

/-- A text without the shortest or the longest end that matches a pattern. -/
def cutBack (longest : Bool) (p : List Glyph) (s : Bytes) : Bytes :=
  let lengths := List.range (s.length + 1)
  let found := (if longest then lengths else lengths.reverse).find? fun n => Glyph.matchesText p (s.drop n)
  s.take (found.getD s.length)

/-! ## Names of files -/

/-- The names in a directory that match a pattern. A point at the start of a name has to be matched by a
point. -/
def matchingNames (d : Disk) (p : Place) (g : List Glyph) : List Bytes :=
  let points := g.head? = some (.byte (byte '.'))
  let names := if points then text "." :: text ".." :: d.names p else d.names p
  names.filter fun n => (points || n.head? ≠ some (byte '.')) && Glyph.matchesText g n

/-- The paths that match a list of names with patterns, below a directory that is written as `above`. -/
def matchingPaths (d : Disk) : (above : Bytes) → Place → List (List Mark) → List Bytes
  | above, _, [] => [above]
  | above, p, c :: rest =>
    let g := pattern c
    let slash := if rest.isEmpty then [] else text "/"
    let names := if Glyph.isWild g then matchingNames d p g else [c.map (·.1)]
    names.flatMap fun n =>
      match d.walk p [n] with
      | .ok (.dir p') => matchingPaths d (above ++ n ++ slash) p' rest
      | .ok (.file ..) => if rest.isEmpty then [above ++ n] else []
      | _ => []

/-- The parts of a word between its slashes. -/
def names : List Mark → List (List Mark)
  | [] => [[]]
  | m :: rest =>
    if m.1 == byte '/' then [] :: names rest
    else
      match names rest with
      | c :: cs => (m :: c) :: cs
      | [] => [[m]]

/-- The paths that a word stands for, or the word itself where it matches none. -/
def paths (d : Disk) (cwd : Place) (ms : List Mark) : List Bytes :=
  let whole := ms.map (·.1)
  if Glyph.isWild (pattern ms) then
    let found := if whole.head? = some (byte '/') then matchingPaths d (text "/") [] (names ms.tail)
      else matchingPaths d [] cwd (names ms)
    if found.isEmpty then [whole] else found.mergeSort Bytes.le
  else [whole]

end AuditShell.World.Script
