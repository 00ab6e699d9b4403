import AuditShell.Text.Bytes
/-!
# A place in a YAML text

What remains of the text together with line, column and index, and the character classes that the
format is built on.
-/
namespace AuditShell.Yaml

/-- A character that ends a line. -/
def isBreak (c : Char) : Bool :=
  c = '\n' || c = '\r' || c = '\u0085' || c = '\u2028' || c = '\u2029'

/-- A space or a tab. -/
def isBlank (c : Char) : Bool := c = ' ' || c = '\t'

/-- A space, a tab or the end of a line. -/
def isGap (c : Char) : Bool := isBlank c || isBreak c

/-- A character of an anchor, a directive or a tag handle. -/
def isNameChar (c : Char) : Bool := c.isAlphanum || c = '_' || c = '-'

/-- A mark of the flow style that ends an unquoted scalar. -/
def isFlowMark (c : Char) : Bool := [',', '?', '[', ']', '\x7b', '\x7d'].elem c

/-- Whether a gap or the end of the text comes next. -/
def gapNext : List Char → Bool
  | [] => true
  | c :: _ => isGap c

/-- Whether a line or the text ends here. -/
def lineEnds : List Char → Bool
  | [] => true
  | c :: _ => isBreak c

/-- Whether a character may stand in a text at all. -/
def isAllowed (c : Char) : Bool :=
  let n := c.toNat
  n = 0x09 || n = 0x0A || n = 0x0D || (0x20 ≤ n && n ≤ 0x7E) || n = 0x85 || (0xA0 ≤ n && n ≤ 0xD7FF)
    || (0xE000 ≤ n && n ≤ 0xFFFD) || 0x10000 ≤ n

/-- The characters of a text: valid UTF-8 of allowed characters, after an optional byte order mark. -/
def characters (bs : Bytes) : Option (List Char) :=
  if Utf8.isValid bs then
    let cs := Utf8.decode bs
    let cs := if cs.head? = some '\uFEFF' then cs.tail else cs
    if cs.all isAllowed then some cs else none
  else none

/-- A place in the text. -/
structure Cursor where
  rest : List Char
  line : Nat := 0
  column : Nat := 0
  index : Nat := 0
  deriving Repr

namespace Cursor

/-- The place `n` characters on, all of them on one line. -/
def skip (c : Cursor) (n : Nat) : Cursor :=
  let n := (c.rest.take n).length
  { c with rest := c.rest.drop n, column := c.column + n, index := c.index + n }

/-- The characters of a class from here on, and the place after them. -/
def span (p : Char → Bool) (c : Cursor) : List Char × Cursor :=
  let run := c.rest.takeWhile p
  (run, c.skip run.length)

/-- The place after the spaces and tabs. -/
def skipBlanks (c : Cursor) : Cursor := (c.span isBlank).2

/-- The place where the line ends. -/
def skipLine (c : Cursor) : Cursor := (c.span fun x => !isBreak x).2

/-- Reads the end of a line. All ends but the two separators of Unicode are read as a newline. -/
def readBreak (c : Cursor) : List Char × Cursor :=
  let after (rest : List Char) (n : Nat) : Cursor :=
    { rest, line := c.line + 1, column := 0, index := c.index + n }
  match c.rest with
  | '\r' :: '\n' :: rest => (['\n'], after rest 2)
  | x :: rest =>
    if x = '\u2028' ∨ x = '\u2029' then ([x], after rest 1)
    else if isBreak x then (['\n'], after rest 1)
    else ([], c)
  | [] => ([], c)

/-- The place after `n` blanks and line ends, or after fewer where there are no more. -/
def skipGap : Nat → Cursor → Cursor
  | 0, c => c
  | n + 1, c =>
    if c.rest.head?.any isBlank then skipGap n (c.skip 1)
    else if c.rest.head?.any isBreak then skipGap n c.readBreak.2
    else c

/-- The place at the end of the line where nothing but a comment is left of it. -/
def skipNote (c : Cursor) : Cursor :=
  let after := c.skipBlanks
  if after.rest.head? = some '#' then after.skipLine else c

/-- How many characters may divide two comments that are read as one. -/
def commentReach : Nat := 511

/-- The place at the end of a comment, and of the comments after it that only ASCII blanks and line
ends divide from it. Those may be indented by tabs. -/
def skipComments : Nat → Cursor → Cursor
  | 0, c => c
  | fuel + 1, c =>
    let c := c.skipLine
    let gap := c.rest.takeWhile fun x => isBlank x || x = '\n' || x = '\r'
    if (c.rest.drop gap.length).head? = some '#' ∧ gap.length ≤ commentReach then
      skipComments fuel (c.skipGap gap.length)
    else c

/-- Whether the line starts here with three dashes or points that stand alone. -/
def atMarker (c : Cursor) : Bool :=
  c.column = 0 && match c.rest with
    | a :: b :: d :: rest => (a = '-' || a = '.') && a = b && b = d && gapNext rest
    | _ => false

end Cursor

end AuditShell.Yaml
