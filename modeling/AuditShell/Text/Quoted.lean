import AuditShell.Text.Bytes
import AuditShell.Text.Printable
/-!
# Quoted literals

How a text or a character is shown inside a message: between quotes, printable characters as
themselves, the others by an escape. Bytes that belong to no character are shown in hexadecimal, so
two different texts never look the same.
-/
namespace AuditShell

namespace Quoted

/-- The lower-case hexadecimal digit of a number below sixteen. -/
def hexDigit (n : Nat) : Char := if n < 10 then Char.ofNat (48 + n) else Char.ofNat (87 + n)

/-- The last `width` hexadecimal digits of a number. -/
def hex : (width : Nat) → Nat → List Char
  | 0, _ => []
  | width + 1, n => hexDigit (n / Nat.pow 16 width % 16) :: hex width n

/-- The character between quotes `q`. -/
def escape (q : Char) (c : Char) : List Char :=
  if c = q ∨ c = '\\' then ['\\', c]
  else if isPrintable c then [c]
  else if c = '\x07' then ['\\', 'a']
  else if c = '\x08' then ['\\', 'b']
  else if c = '\x0C' then ['\\', 'f']
  else if c = '\n' then ['\\', 'n']
  else if c = '\r' then ['\\', 'r']
  else if c = '\t' then ['\\', 't']
  else if c = '\x0B' then ['\\', 'v']
  else if c.toNat < 0x80 then '\\' :: 'x' :: hex 2 c.toNat
  else if c.toNat < 0x10000 then '\\' :: 'u' :: hex 4 c.toNat
  else '\\' :: 'U' :: hex 8 c.toNat

/-- A unit of text between double quotes. -/
def escapePiece : Utf8.Piece → List Char
  | .char c => escape '"' c
  | .stray b => '\\' :: 'x' :: hex 2 b.toNat

/-- The characters of a text between double quotes. -/
def body (bs : Bytes) : List Char := (Utf8.pieces bs).flatMap escapePiece

end Quoted

/-- A text as a double-quoted literal. -/
def quoted (bs : Bytes) : Bytes := Utf8.encode ('"' :: (Quoted.body bs ++ ['"']))

/-- A character number as a single-quoted literal; a number that is no character shows as U+FFFD. -/
def quotedChar (code : Int) : Bytes :=
  let n := code.toNat
  let c := if code < 0 ∨ ¬ n.isValidChar then replacement else Char.ofNat n
  Utf8.encode ('\'' :: (Quoted.escape '\'' c ++ ['\'']))

end AuditShell
