import AuditShell.Text.Quoted
/-!
# Tokens

The units of a command line: words and operators, each with the position of its first character,
and a mark for the end of the line. A kind is known by its number; numbers beyond the known ones are
kept, so that a token list from elsewhere can be shown and refused.
-/
namespace AuditShell

namespace Token

/-- What a token is. -/
inductive Kind where
  | word
  | pipe
  | input
  | output
  | append
  | separator
  | finish
  | other (n : Int)
  deriving DecidableEq, Repr

/-- The kind with the given number. -/
def Kind.ofInt (n : Int) : Kind :=
  if n = 0 then .word
  else if n = 1 then .pipe
  else if n = 2 then .input
  else if n = 3 then .output
  else if n = 4 then .append
  else if n = 5 then .separator
  else if n = 6 then .finish
  else .other n

/-- The number of a kind. -/
def Kind.toInt : Kind → Int
  | .word => 0
  | .pipe => 1
  | .input => 2
  | .output => 3
  | .append => 4
  | .separator => 5
  | .finish => 6
  | .other n => n

/-- How a kind is called in messages. -/
def Kind.name : Kind → Bytes
  | .word => text "word"
  | .pipe => text "|"
  | .input => text "<"
  | .output => text ">"
  | .append => text ">>"
  | .separator => text ";"
  | .finish => text "end of input"
  | .other n => text "kind(" ++ Bytes.ofInt n ++ text ")"

end Token

/-- One unit of a line. Only words carry a text. -/
structure Token where
  kind : Token.Kind
  word : Bytes
  pos : Int
  deriving DecidableEq, Repr

namespace Token

/-- A word at a position. -/
def ofWord (word : Bytes) (pos : Int) : Token := ⟨.word, word, pos⟩

/-- An operator at a position. -/
def ofOperator (kind : Kind) (pos : Int) : Token := ⟨kind, [], pos⟩

/-- How a token is shown in messages: a word as a literal, an operator by its name. -/
def render (t : Token) : Bytes :=
  match t.kind with
  | .word => quoted t.word
  | k => k.name

/-- Whether a token list holds nothing but the mark for the end of the line. -/
def isEmptyLine : List Token → Bool
  | [t] => t.kind = .finish
  | _ => false

end Token

end AuditShell
