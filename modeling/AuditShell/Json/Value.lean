import AuditShell.Text.Quoted
/-!
# JSON values and their texts

A value keeps a number as its text and an object as its members in order. `Value.compact` writes
it without blanks, `Value.indented` with one member or element a line. In strings the characters
that mean something to a web page are escaped, and stray bytes are written as U+FFFD.
-/
namespace AuditShell.Json

/-- A JSON value. -/
inductive Value where
  | null
  | bool (b : Bool)
  | number (text : Bytes)
  | string (s : Bytes)
  | array (elements : List Value)
  | object (members : List (Bytes × Value))
  deriving Repr, Inhabited

/-- A character inside a string. -/
def escapeChar (c : Char) : List Char :=
  if c = '"' ∨ c = '\\' then ['\\', c]
  else if c = '\x08' then ['\\', 'b']
  else if c = '\x0C' then ['\\', 'f']
  else if c = '\n' then ['\\', 'n']
  else if c = '\r' then ['\\', 'r']
  else if c = '\t' then ['\\', 't']
  else if c.toNat < 0x20 ∨ c = '<' ∨ c = '>' ∨ c = '&' ∨ c = '\u2028' ∨ c = '\u2029' then
    '\\' :: 'u' :: Quoted.hex 4 c.toNat
  else [c]

/-- A text as a string. A byte that is no UTF-8 becomes the character U+FFFD itself and no escape, so a text that was
written and read back is written in the same bytes again. -/
def writeString (s : Bytes) : Bytes :=
  Utf8.encode ('"' :: (Utf8.decode s).flatMap escapeChar ++ ['"'])

namespace Value

mutual

/-- The text of a value without blanks. -/
def compact : Value → Bytes
  | .null => text "null"
  | .bool true => text "true"
  | .bool false => text "false"
  | .number t => t
  | .string s => writeString s
  | .array es => text "[" ++ compactElements es ++ text "]"
  | .object ms => text "\x7b" ++ compactMembers ms ++ text "\x7d"

/-- The elements of an array with commas between them. -/
def compactElements : List Value → Bytes
  | [] => []
  | [v] => compact v
  | v :: w :: vs => compact v ++ text "," ++ compactElements (w :: vs)

/-- The members of an object with commas between them. -/
def compactMembers : List (Bytes × Value) → Bytes
  | [] => []
  | [(k, v)] => writeString k ++ text ":" ++ compact v
  | (k, v) :: m :: ms => writeString k ++ text ":" ++ compact v ++ text "," ++ compactMembers (m :: ms)

end

/-- A new line at a depth of two blanks a level. -/
def newline (depth : Nat) : Bytes := 0x0A :: List.replicate (2 * depth) 0x20

mutual

/-- The text of a value with one element or member a line. -/
def indentedAt (depth : Nat) : Value → Bytes
  | .array [] => text "[]"
  | .array (e :: es) =>
    text "[" ++ newline (depth + 1) ++ indentedElements (depth + 1) (e :: es) ++ newline depth ++ text "]"
  | .object [] => text "\x7b\x7d"
  | .object (m :: ms) =>
    text "\x7b" ++ newline (depth + 1) ++ indentedMembers (depth + 1) (m :: ms) ++ newline depth ++ text "\x7d"
  | .null => text "null"
  | .bool true => text "true"
  | .bool false => text "false"
  | .number t => t
  | .string s => writeString s

/-- The elements of an array on lines of their own. -/
def indentedElements (depth : Nat) : List Value → Bytes
  | [] => []
  | [v] => indentedAt depth v
  | v :: w :: vs => indentedAt depth v ++ text "," ++ newline depth ++ indentedElements depth (w :: vs)

/-- The members of an object on lines of their own. -/
def indentedMembers (depth : Nat) : List (Bytes × Value) → Bytes
  | [] => []
  | [(k, v)] => writeString k ++ text ": " ++ indentedAt depth v
  | (k, v) :: m :: ms =>
    writeString k ++ text ": " ++ indentedAt depth v ++ text "," ++ newline depth ++
      indentedMembers depth (m :: ms)

end

/-- The text of a value with one element or member a line. -/
def indented (v : Value) : Bytes := indentedAt 0 v

end Value

end AuditShell.Json
