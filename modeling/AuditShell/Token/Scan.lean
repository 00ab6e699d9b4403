import AuditShell.Text.Blank
import AuditShell.Token
/-!
# Scanning a line

A line is cut into lexemes: a white space character, an operator, a quoted region, or a maximal run
of word characters. `lexemes` cuts every line, leaving a reserved character that starts none of
these as a lexeme of its own. `Token.scan` keeps the operators and words with their positions and
refuses a line at the first such stray character.
-/
namespace AuditShell

/-- The characters that end a bare word. -/
def reserved : List Char :=
  ['$', '\'', '"', '\\', '#', '=', '[', ']', '!', '>', '<', '|', ';', '\x7b', '\x7d', '(', ')', '*', '?',
    '~', '&']

/-- Whether a character ends a bare word. -/
def isReserved (c : Char) : Bool := reserved.contains c

/-- Whether a character can be part of a bare word. -/
def isWordChar (c : Char) : Bool := !isBlank c && !isReserved c

/-- The causes for which a line is not a list of tokens, known by their numbers. -/
inductive ScanError.Kind where
  | outOfBounds
  | emptyToken
  | other (n : Int)
  deriving DecidableEq, Repr

/-- Why and where a line is not a list of tokens. `char` is the number of the character that starts
no token. -/
structure ScanError where
  kind : ScanError.Kind
  pos : Int
  char : Int
  deriving DecidableEq, Repr

namespace ScanError

/-- The cause with the given number. -/
def Kind.ofInt (n : Int) : Kind :=
  if n = 0 then .outOfBounds else if n = 1 then .emptyToken else .other n

/-- How a cause is called. -/
def Kind.name : Kind → Bytes
  | .outOfBounds => text "index out of bounds"
  | .emptyToken => text "empty token"
  | .other n => text "scan error(" ++ Bytes.ofInt n ++ text ")"

/-- The message of a scan error. -/
def message (e : ScanError) : Bytes :=
  text "scan: " ++ e.kind.name ++
    (if e.kind = .emptyToken then text ": unexpected " ++ quotedChar e.char else []) ++
    text " at position " ++ Bytes.ofInt e.pos

end ScanError

/-- A piece of a line. -/
inductive Lexeme where
  /-- One white space character. -/
  | blank (c : Char)
  /-- An operator. -/
  | operator (kind : Token.Kind)
  /-- A maximal run of word characters. -/
  | word (cs : List Char)
  /-- The characters after an opening quote, up to the same quote or to the end of the line. -/
  | region (quote : Char) (cs : List Char) (closed : Bool)
  /-- A reserved character that starts no token. -/
  | stray (c : Char)
  deriving DecidableEq, Repr

namespace Lexeme

/-- The characters that an operator is written with. -/
def operatorChars : Token.Kind → List Char
  | .pipe => ['|']
  | .input => ['<']
  | .output => ['>']
  | .append => ['>', '>']
  | .separator => [';']
  | _ => []

/-- The characters of a lexeme. -/
def chars : Lexeme → List Char
  | blank c => [c]
  | operator k => operatorChars k
  | word cs => cs
  | region q cs closed => q :: cs ++ (if closed then [q] else [])
  | stray c => [c]

/-- The lexeme that a line with the given first character and rest starts with. -/
def first (c : Char) (rest : List Char) : Lexeme :=
  if isBlank c then .blank c
  else if c = '|' then .operator .pipe
  else if c = '<' then .operator .input
  else if c = ';' then .operator .separator
  else if c = '>' then .operator (if rest.head? = some '>' then .append else .output)
  else if c = '"' ∨ c = '\'' then
    let cs := rest.takeWhile (· ≠ c)
    .region c cs (cs.length < rest.length)
  else if isReserved c then .stray c
  else .word (c :: rest.takeWhile isWordChar)

end Lexeme

/-- The lexemes of a line of which the first `skip` characters belong to an earlier lexeme. -/
def lexemesFrom : (skip : Nat) → List Char → List Lexeme
  | _, [] => []
  | skip + 1, _ :: rest => lexemesFrom skip rest
  | 0, c :: rest =>
    let l := Lexeme.first c rest
    l :: lexemesFrom (l.chars.length - 1) rest

/-- The lexemes of a line. -/
def lexemes (line : List Char) : List Lexeme := lexemesFrom 0 line

namespace Token

/-- The tokens of a list of lexemes that starts at position `pos`, with the mark for the end of the
line, or the first stray character. -/
def ofLexemes : (pos : Nat) → List Lexeme → Except ScanError (List Token)
  | pos, [] => .ok [ofOperator .finish pos]
  | pos, l :: ls =>
    let rest := ofLexemes (pos + l.chars.length) ls
    match l with
    | .blank _ => rest
    | .operator k => rest.map (ofOperator k pos :: ·)
    | .word cs => rest.map (ofWord (Utf8.encode cs) pos :: ·)
    | .region _ cs _ => rest.map (ofWord (Utf8.encode cs) pos :: ·)
    | .stray c => .error ⟨.emptyToken, pos, c.toNat⟩

/-- The tokens of a line of characters. -/
def scanChars (line : List Char) : Except ScanError (List Token) := ofLexemes 0 (lexemes line)

/-- The tokens of a line, the mark for its end included. -/
def scan (line : Bytes) : Except ScanError (List Token) := scanChars (Utf8.decode line)

end Token

end AuditShell
