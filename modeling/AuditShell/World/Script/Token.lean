import AuditShell.World.Script.Syntax
/-!
# The tokens of command scripts

A script is read byte by byte. `Source` is what is left of it, together with the token that was read
last, which can be put back, and the here documents, whose text stands on the lines after them.
-/
namespace AuditShell.World.Script

/-- The byte of an ASCII character. -/
def byte (c : Char) : UInt8 := c.toNat.toUInt8

/-- A digit. -/
def isDigitByte (b : UInt8) : Bool := byte '0' ≤ b && b ≤ byte '9'

/-- A byte that can start the name of a variable. -/
def isNameStart (b : UInt8) : Bool :=
  (byte 'a' ≤ b && b ≤ byte 'z') || (byte 'A' ≤ b && b ≤ byte 'Z') || b == byte '_'

/-- A byte that can be part of the name of a variable. -/
def isNameByte (b : UInt8) : Bool := isNameStart b || isDigitByte b

/-- Whether a text is the name of a variable. -/
def isName (b : Bytes) : Bool := b.head?.any isNameStart && b.all isNameByte

/-- The name of a parameter that is no variable. -/
def isSpecial (b : UInt8) : Bool := isDigitByte b || (text "@*#?-$!").elem b

/-- A space or a tab. -/
def isSpaceByte (b : UInt8) : Bool := b == byte ' ' || b == byte '\t'

/-- A byte that ends a word. -/
def endsWord (b : UInt8) : Bool := isSpaceByte b || (text "\n;&|<>()").elem b

/-- A token. -/
inductive Token where
  | finish
  | newline
  /-- An operator between commands. -/
  | mark (b : Bytes)
  /-- A redirect of a stream, without its word. -/
  | redirect (stream : Nat) (how : Redirection)
  /-- A here document as the input of a stream, without its last line. -/
  | document (stream : Nat) (strip : Bool)
  /-- A word, with its text where it is made of nothing but unquoted text. -/
  | word (w : Word) (bare : Option Bytes)
  | keyword (b : Bytes)

instance : Inhabited Token := ⟨.finish⟩

namespace Token

/-- The words that give commands their form. -/
def keywords : List Bytes :=
  ["!", "case", "do", "done", "elif", "else", "esac", "fi", "for", "if", "in", "then", "until", "while",
    "\x7b", "\x7d"].map text

/-- A word that is a keyword where keywords are looked for. -/
def asKeyword : Token → Token
  | .word w (some b) => if keywords.elem b then .keyword b else .word w (some b)
  | t => t

/-- How a complaint names a token. -/
def name : Token → Bytes
  | .finish => text "end of file"
  | .newline => text "newline"
  | .mark b => text "\"" ++ b ++ text "\""
  | .redirect .. | .document .. => text "redirection"
  | .word .. => text "word"
  | .keyword b => text "\"" ++ b ++ text "\""

/-- Whether a token is the given operator. -/
def isMark (s : String) : Token → Bool
  | .mark b => b = text s
  | _ => false

/-- Whether a token is the given keyword. -/
def isKeyword (s : String) : Token → Bool
  | .keyword b => b = text s
  | _ => false

/-- Whether a token ends the commands before it. -/
def endsList : Token → Bool
  | .finish => true
  | .mark b => b = text ")" || b = text ";;"
  | .keyword b => (["do", "done", "elif", "else", "esac", "fi", "then", "\x7d"].map text).elem b
  | _ => false

end Token

/-- A here document whose text has not been read yet. -/
structure Waiting where
  number : Nat
  /-- The line that ends the text. -/
  last : Bytes
  /-- Whether the text is taken as it stands. -/
  quoted : Bool
  /-- Whether tabs at the start of a line are dropped. -/
  strip : Bool
  deriving Repr

/-- What is left of a script. -/
structure Source where
  rest : Bytes
  line : Nat := 1
  last : Token := .finish
  pushed : Bool := false
  waiting : List Waiting := []
  documents : Array Word := #[]

/-- A script that cannot be read, with the line where this is noticed. -/
structure Malformed where
  line : Nat
  detail : Bytes
  deriving DecidableEq, Repr

/-- A step of reading a script. -/
abbrev Reader := StateT Source (Except Malformed)

namespace Reader

/-- Gives up. -/
def fail {α : Type} (detail : Bytes) : Reader α := do throw ⟨(← get).line, detail⟩

/-- Gives up because of the last token. -/
def unexpected {α : Type} (expecting : Option String) : Reader α := do
  let name := (← get).last.name
  fail (name ++ text " unexpected" ++ match expecting with
    | some s => text " (expecting \"" ++ text s ++ text "\")"
    | none => [])

/-- Puts the last token back. -/
def putBack : Reader Unit := modify fun s => { s with pushed := true }

/-- The next byte. -/
def peek : Reader (Option UInt8) := return (← get).rest.head?

/-- Passes a byte. -/
def pass : Reader Unit := modify fun s =>
  { s with rest := s.rest.tail, line := if s.rest.head? = some (byte '\n') then s.line + 1 else s.line }

/-- Passes bytes that hold no end of a line. -/
def passMany (n : Nat) : Reader Unit := modify fun s => { s with rest := s.rest.drop n }

/-- Passes a backslash and the end of its line, as often as they stand here. -/
def passJoins : Nat → Reader Unit
  | 0 => return
  | fuel + 1 => do
    match (← get).rest with
    | a :: b :: _ => if a == byte '\\' && b == byte '\n' then pass; pass; passJoins fuel else return
    | _ => return

/-- The next byte on the joined line. -/
def peekJoined : Reader (Option UInt8) := do
  passJoins (← get).rest.length
  peek

/-- Passes the given byte where it comes next. -/
def accept (c : Char) : Reader Bool := do
  if (← peekJoined) == some (byte c) then pass; return true else return false

/-- Passes blanks and a comment. -/
def passBlanks : Nat → Reader Unit
  | 0 => return
  | fuel + 1 => do
    match ← peekJoined with
    | some b =>
      if isSpaceByte b then pass; passBlanks fuel
      else if b == byte '#' then
        let s ← get
        passMany (s.rest.takeWhile (· ≠ byte '\n')).length
      else return
    | none => return

/-- The stream that a redirect without a number is about. -/
def redirectStream (digit : Option UInt8) (otherwise : Nat) : Nat :=
  match digit with
  | some d => (d - byte '0').toNat
  | none => otherwise

/-- Reads a redirect at its arrow. -/
def redirect (digit : Option UInt8) : Reader Token := do
  if ← accept '>' then
    let stream := redirectStream digit 1
    if ← accept '>' then return .redirect stream .append
    else if ← accept '|' then return .redirect stream .write
    else if ← accept '&' then return .redirect stream .same
    else return .redirect stream .write
  else
    pass
    let stream := redirectStream digit 0
    if ← accept '<' then return .document stream (← accept '-')
    else if ← accept '&' then return .redirect stream .same
    else if ← accept '>' then return .redirect stream .readWrite
    else return .redirect stream .read

/-- Reads an operator, or nothing where none stands here. -/
def operator? : Reader (Option Token) := do
  let double (c : Char) : Reader (Option Token) := do
    if ← accept c then return some (.mark [byte c, byte c]) else return some (.mark [byte c])
  match ← peek with
  | none => return some .finish
  | some b =>
    if b == byte '\n' then pass; return some .newline
    else if b == byte '&' then pass; double '&'
    else if b == byte '|' then pass; double '|'
    else if b == byte ';' then pass; double ';'
    else if b == byte '(' || b == byte ')' then pass; return some (.mark [b])
    else if b == byte '<' || b == byte '>' then return some (← redirect none)
    else if isDigitByte b then
      match (← get).rest with
      | _ :: c :: _ => if c == byte '<' || c == byte '>' then pass; return some (← redirect (some b)) else return none
      | _ => return none
    else return none

/-- The lines up to a last line, and what comes after it. The second part of the result counts the lines. -/
def documentLines (last : Bytes) (strip : Bool) : Nat → Bytes → (lines : Nat) → Bytes × Nat × Bytes
  | 0, rest, n => ([], n, rest)
  | fuel + 1, rest, n =>
    if rest.isEmpty then ([], n, [])
    else
      let whole := rest.takeWhile (· ≠ byte '\n')
      let after := rest.drop (whole.length + 1)
      let line := if strip then whole.dropWhile (· == byte '\t') else whole
      if line = last then ([], n + 1, after)
      else
        let (body, n, after) := documentLines last strip fuel after (n + 1)
        (line ++ byte '\n' :: body, n, after)

/-- Adds text to the parts of a word, which are in reverse. -/
def addText (parts : Word) (b : UInt8) (quoted : Bool) : Word :=
  match parts with
  | .literal l q :: rest => if q = quoted then .literal (b :: l) q :: rest else .literal [b] quoted :: parts
  | _ => .literal [b] quoted :: parts

/-- Parts in order, from parts in reverse whose texts are in reverse. -/
def settle (parts : Word) : Word :=
  parts.reverse.map fun p => match p with
    | .literal b q => .literal b.reverse q
    | p => p

/-- The text of a word that is made of nothing but unquoted text. -/
def bareText? : Word → Option Bytes
  | [.literal b false] => some b
  | _ => none

end Reader

end AuditShell.World.Script
