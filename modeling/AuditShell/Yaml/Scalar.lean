import AuditShell.Yaml.Cursor
/-!
# The text of a scalar

A scalar is written plain, in one of two kinds of quotes, or as an indented block. Lines of the
first three forms are folded: a single break is read as a space, and of several the first is dropped.
-/
namespace AuditShell.Yaml

/-- How a scalar is written. -/
inductive Style where
  | plain
  | quoted
  | block
  deriving DecidableEq, Repr

/-- The blanks and breaks between two parts of a folded scalar. -/
structure Fold where
  /-- The blanks before the first break. -/
  blanks : List Char := []
  /-- The first break, empty where it was escaped. -/
  first : List Char := []
  /-- The breaks after it. -/
  more : List Char := []
  /-- Whether there is a break. -/
  broken : Bool := false

namespace Fold

/-- What the blanks and breaks are read as. -/
def join (f : Fold) : List Char :=
  if f.broken then
    match f.first with
    | '\n' :: _ => if f.more = [] then [' '] else f.more
    | first => first ++ f.more
  else f.blanks

/-- Reads blanks and breaks. A tab before column `limit` of a new line is refused. -/
def read (limit : Nat) : Nat → Cursor → Fold → Option (Fold × Cursor)
  | 0, c, f => some (f, c)
  | fuel + 1, c, f =>
    match c.rest with
    | [] => some (f, c)
    | x :: _ =>
      if isBlank x then
        if f.broken then
          if x = '\t' ∧ c.column < limit then none else read limit fuel (c.skip 1) f
        else read limit fuel (c.skip 1) { f with blanks := f.blanks ++ [x] }
      else if isBreak x then
        let (br, c) := c.readBreak
        if f.broken then read limit fuel c { f with more := f.more ++ br }
        else read limit fuel c { first := br, broken := true }
      else some (f, c)

end Fold

/-! ## Quotes -/

/-- The value of an escape of one character. -/
def escapeChar? : Char → Option Char
  | '0' => some '\x00' | 'a' => some '\x07' | 'b' => some '\x08' | 't' => some '\t' | '\t' => some '\t'
  | 'n' => some '\n' | 'v' => some '\x0b' | 'f' => some '\x0c' | 'r' => some '\r' | 'e' => some '\x1b'
  | ' ' => some ' ' | '"' => some '"' | '\'' => some '\'' | '\\' => some '\\'
  | 'N' => some '\u0085' | '_' => some '\u00a0' | 'L' => some '\u2028' | 'P' => some '\u2029'
  | _ => none

/-- The number of hexadecimal digits after an escape. -/
def escapeDigits? : Char → Option Nat
  | 'x' => some 2 | 'u' => some 4 | 'U' => some 8
  | _ => none

/-- The value of a digit of a base up to sixteen. -/
def digit? (base : Nat) (c : Char) : Option Nat :=
  let v := if c.isDigit then some (c.toNat - '0'.toNat)
    else if 'a' ≤ c ∧ c ≤ 'f' then some (c.toNat - 'a'.toNat + 10)
    else if 'A' ≤ c ∧ c ≤ 'F' then some (c.toNat - 'A'.toNat + 10)
    else none
  v.filter (· < base)

/-- The number with the given digits, of which there may be none. -/
def number? (base : Nat) (ds : List Char) : Option Nat :=
  ds.foldl (fun n d => do return (← n) * base + (← digit? base d)) (some 0)

/-- Reads the part of a quoted scalar that holds no blanks. The last component says that an escaped
break ended it. -/
def quotedRun (single : Bool) : Nat → Cursor → List Char → Option (List Char × Cursor × Bool)
  | 0, _, _ => none
  | fuel + 1, c, out =>
    match c.rest with
    | [] => some (out.reverse, c, false)
    | x :: next =>
      if isGap x then some (out.reverse, c, false)
      else if single then
        if x ≠ '\'' then quotedRun single fuel (c.skip 1) (x :: out)
        else if next.head? = some '\'' then quotedRun single fuel (c.skip 2) ('\'' :: out)
        else some (out.reverse, c, false)
      else if x = '"' then some (out.reverse, c, false)
      else if x ≠ '\\' then quotedRun single fuel (c.skip 1) (x :: out)
      else
        match next with
        | [] => none
        | e :: digits =>
          if isBreak e then some (out.reverse, (c.skip 1).readBreak.2, true)
          else
            match escapeChar? e, escapeDigits? e with
            | some y, _ => quotedRun single fuel (c.skip 2) (y :: out)
            | none, some n =>
              if digits.length < n then none
              else
                match number? 16 (digits.take n) with
                | none => none
                | some v =>
                  if h : v.isValidChar then quotedRun single fuel (c.skip (2 + n)) (Char.ofNatAux v h :: out)
                  else none
            | none, none => none

/-- Reads a quoted scalar after its opening quote. The text read so far is held in reverse. -/
def quotedText (single : Bool) : Nat → Cursor → List Char → Option (List Char × Cursor)
  | 0, _, _ => none
  | fuel + 1, c, out => do
    if c.atMarker ∨ c.rest.isEmpty then none
    let (run, c, escaped) ← quotedRun single (fuel + 1) c []
    let out := run.reverse ++ out
    if c.rest.head? = some (if single then '\'' else '"') then return (out.reverse, c.skip 1)
    let (fold, c) ← Fold.read 0 (c.rest.takeWhile isGap).length c { broken := escaped }
    quotedText single fuel c (fold.join.reverse ++ out)

/-! ## Plain -/

/-- The part of a plain scalar that holds no blanks. -/
def plainRun (flow : Bool) : List Char → List Char
  | [] => []
  | x :: next =>
    if isGap x || (x = ':' && gapNext next) || (flow && isFlowMark x) then [] else x :: plainRun flow next

/-- Reads a plain scalar in a block of the given indentation. The text read so far is held in reverse.
The last component says that the scalar ended on a line of its own. -/
def plainText (flow : Bool) (indent : Nat) :
    Nat → Cursor → List Char → Fold → Option (List Char × Cursor × Bool)
  | 0, c, out, fold => some (out.reverse, c, fold.broken)
  | fuel + 1, c, out, fold =>
    if c.atMarker ∨ c.rest.head? = some '#' then some (out.reverse, c, fold.broken)
    else
      match plainRun flow c.rest with
      | [] => some (out.reverse, c, fold.broken)
      | run =>
        let out := run.reverse ++ (fold.join.reverse ++ out)
        let c := c.skip run.length
        if c.rest.head?.any isGap then
          match Fold.read indent (c.rest.takeWhile isGap).length c {} with
          | none => none
          | some (fold, c) =>
            if !flow ∧ c.column < indent then some (out.reverse, c, fold.broken)
            else plainText flow indent fuel c out fold
        else some (out.reverse, c, false)

/-! ## Blocks -/

/-- What happens to the breaks at the end of a block. -/
inductive Chomp where
  | clip
  | strip
  | keep
  deriving DecidableEq, Repr

/-- Reads the indentation and the empty lines before a line of a block. An `indent` of zero is not
known yet; the last component is the deepest column seen. -/
def blockGap (indent : Nat) : Nat → Cursor → List Char → Nat → Option (List Char × Cursor × Nat)
  | 0, c, breaks, deepest => some (breaks, c, deepest)
  | fuel + 1, c, breaks, deepest =>
    let spaces := (c.rest.takeWhile (· = ' ')).length
    let c := c.skip (if indent = 0 then spaces else min spaces (indent - c.column))
    let deepest := max deepest c.column
    if (indent = 0 ∨ c.column < indent) ∧ c.rest.head? = some '\t' then none
    else if c.rest.head?.any isBreak then
      let (br, c) := c.readBreak
      blockGap indent fuel c (breaks ++ br) deepest
    else some (breaks, c, deepest)

/-- The lines of a block read so far. -/
structure BlockLines where
  /-- The text of the lines, in reverse. -/
  text : List Char := []
  /-- The break that ended the last line. -/
  first : List Char := []
  /-- The empty lines after it. -/
  more : List Char := []
  /-- Whether the last line starts with a blank. -/
  blank : Bool := false

/-- Reads the lines of a block. -/
def blockLines (folded : Bool) (indent : Nat) : Nat → Cursor → BlockLines → Option (BlockLines × Cursor)
  | 0, c, b => some (b, c)
  | fuel + 1, c, b =>
    if c.column ≠ indent ∨ c.rest.isEmpty then some (b, c)
    else
      let blank := c.rest.head?.any isBlank
      let joint :=
        if folded ∧ ¬ b.blank ∧ ¬ blank ∧ b.first.head? = some '\n' then if b.more = [] then [' '] else []
        else b.first
      let (line, c) := c.span fun x => !isBreak x
      let (first, c) := c.readBreak
      match blockGap indent fuel c [] 0 with
      | none => none
      | some (more, c, _) =>
        blockLines folded indent fuel c ⟨(joint ++ b.more ++ line).reverse ++ b.text, first, more, blank⟩

/-- Reads what stands between the mark of a block and the end of its line: how to treat the last
breaks, and an explicit indentation from 1 to 9. -/
def blockHeader (c : Cursor) : Option (Chomp × Option Nat × Cursor) := do
  let chomp? (c : Cursor) : Option Chomp :=
    match c.rest.head? with
    | some '+' => some .keep
    | some '-' => some .strip
    | _ => none
  let step? (c : Cursor) : Option (Option Nat) :=
    match c.rest.head? with
    | some '0' => none
    | some d => some (digit? 10 d)
    | none => some none
  let (chomp, step, c) ← (match chomp? c with
    | some chomp => do
      let c := c.skip 1
      let step ← step? c
      return (chomp, step, if step.isSome then c.skip 1 else c)
    | none => do
      let step ← step? c
      let c := if step.isSome then c.skip 1 else c
      match step, chomp? c with
      | some _, some chomp => return (chomp, step, c.skip 1)
      | _, _ => return (.clip, step, c))
  let c := c.skipBlanks
  let c := if c.rest.head? = some '#' then c.skipLine else c
  if lineEnds c.rest then return (chomp, step, c.readBreak.2) else none

/-- Reads a block after its mark. `parent` is the indentation of what the block stands in. -/
def blockText (folded : Bool) (parent : Int) (c : Cursor) : Option (List Char × Cursor) := do
  let (chomp, step, c) ← blockHeader c
  let known := match step with
    | some n => (max parent 0).toNat + n
    | none => 0
  let (more, c, deepest) ← blockGap known (c.rest.length + 1) c [] 0
  let indent := if known = 0 then max deepest (max (parent + 1).toNat 1) else known
  let (b, c) ← blockLines folded indent (c.rest.length + 1) c { more }
  let tail := match chomp with
    | .strip => []
    | .clip => b.first
    | .keep => b.first ++ b.more
  return (b.text.reverse ++ tail, c)

end AuditShell.Yaml
