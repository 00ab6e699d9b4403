import AuditShell.Text.Bytes
/-!
# Names in messages

How programs quote a name in a message, so that it can be told from the words around it: `quote` with
backslashes, `shellAlways` and `shell` as a command interpreter would read the name back.
-/
namespace AuditShell.World.Quote

/-- Whether a byte is printed as it is. -/
def isPrintable (b : UInt8) : Bool := 0x20 ≤ b && b ≤ 0x7E

/-- What stands after a backslash for a byte that is not printed: a letter or three octal digits. -/
def escape? (b : UInt8) : Option Bytes :=
  if b = 0x07 then some (text "a") else if b = 0x08 then some (text "b") else if b = 0x09 then some (text "t")
  else if b = 0x0A then some (text "n") else if b = 0x0B then some (text "v") else if b = 0x0C then some (text "f")
  else if b = 0x0D then some (text "r") else if isPrintable b then none
  else some [0x30 + b / 64, 0x30 + b / 8 % 8, 0x30 + b % 8]

/-- A text between quotes, with backslashes before quotes, backslashes and what is not printed. -/
def quote (bs : Bytes) : Bytes :=
  text "'" ++ bs.flatMap (fun b =>
    match escape? b with
    | some e => text "\\" ++ e
    | none => if b = 0x27 || b = 0x5C then [0x5C, b] else [b]) ++ text "'"

/-- The inside of a text between single quotes: what is not printed stands between quotes of its own,
which `escaping` says are open. -/
def shellBody : (escaping : Bool) → Bytes → Bytes
  | _, [] => []
  | escaping, b :: bs =>
    match escape? b with
    | some e => (if escaping then [] else text "'$'") ++ text "\\" ++ e ++ shellBody true bs
    | none =>
      if b = 0x27 then text "'\\''" ++ shellBody false bs
      else (if escaping then text "''" else []) ++ b :: shellBody false bs

/-- Whether bytes mean themselves between double quotes; `first` says that they are at the start. -/
def isTame : (first : Bool) → Bytes → Bool
  | _, [] => true
  | first, b :: bs =>
    ((0x30 ≤ b && b ≤ 0x39) || (0x41 ≤ b && b ≤ 0x5A) || (0x61 ≤ b && b ≤ 0x7A) || (text "%+,-./:]_ '@").elem b ||
      (first && (b = 0x23 || b = 0x7E))) && isTame false bs

/-- A text in quotes that a command interpreter understands. -/
def shellAlways (bs : Bytes) : Bytes :=
  if bs.elem 0x27 && isTame true bs then text "\"" ++ bs ++ text "\""
  else text "'" ++ shellBody false bs ++ text "'"

/-- Whether a command interpreter would not take a text for a plain word. -/
def needsQuotes (bs : Bytes) : Bool :=
  bs.isEmpty || bs = text "\x7b" || bs = text "\x7d" || bs.head? = some 0x23 || bs.head? = some 0x7E ||
    bs.any fun b => (text " !\"$&()*;<=>[^\x60|?\\'").elem b || !isPrintable b

/-- A text as a command interpreter understands it, in quotes only where it needs them. -/
def shell (bs : Bytes) : Bytes := if needsQuotes bs then shellAlways bs else bs

/-- A name before a colon, where one inside it is reason enough for quotes. -/
def shellName (bs : Bytes) : Bytes := if bs.elem 0x3A then shellAlways bs else shell bs

end AuditShell.World.Quote
