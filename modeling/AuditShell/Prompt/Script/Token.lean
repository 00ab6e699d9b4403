import AuditShell.Number.Binary64
import AuditShell.Text.Letter
/-!
# Tokens of a prompt script

A script is read as tokens, in which the indentation of lines shows as tokens of its own. Between
brackets, newlines and indentation do not count.
-/
namespace AuditShell.Prompt.Script

/-- A name in a script. -/
abbrev Name := String

/-- A token of a script. -/
inductive Token where
  | name (n : Name)
  | keyword (n : Name)
  /-- A word that is kept for later. -/
  | reserved
  | int (n : Nat)
  | float (d : Double)
  | string (s : Bytes)
  | bytes (s : Bytes)
  | op (s : String)
  | newline
  | indent
  | dedent
  deriving DecidableEq, Repr

/-- The words that mean something. -/
def keywords : List Name :=
  ["and", "break", "continue", "def", "elif", "else", "for", "if", "in", "lambda", "load", "not", "or", "pass",
    "return", "while"]

/-- The words that are kept for later. -/
def reservedWords : List Name :=
  ["as", "class", "del", "except", "finally", "from", "global", "import", "is", "nonlocal", "raise", "try", "with",
    "yield"]

/-- The operators and marks, longer ones first. -/
def operators : List String :=
  ["<<=", ">>=", "//=", "**", "==", "!=", "<=", ">=", "//", "+=", "-=", "*=", "/=", "%=", "|=", "&=", "^=", "<<",
    ">>", "+", "-", "*", "/", "%", "=", "<", ">", "(", ")", "[", "]", "\x7b", "\x7d", ".", ",", ":", ";", "|", "&",
    "^", "~"]

/-- The character that ends a script wherever a token could start. -/
def endMark : Char := '\x00'

/-- Whether a character can start a name. -/
def isNameStart (c : Char) : Bool := c.isAlpha || c == '_' || (0x80 ≤ c.toNat && Letter.isLetter c)

/-- Whether a character can be part of a name. -/
def isNamePart (c : Char) : Bool := isNameStart c || c.isDigit

/-! ## Numbers -/

/-- The value of hexadecimal digits. -/
def hexNumber? (ds : List Char) : Option Nat :=
  if ds.all fun c => (Binary64.hexDigit? c).isSome then some (Binary64.digitsValue 16 ds) else none

/-- A whole number after the mark of its base. Only hexadecimal ones may be longer than a word. -/
def basedNumber (base : Nat) (cs : List Char) : Option (Token × List Char) :=
  let ds := cs.takeWhile fun c => (Binary64.hexDigit? c).any (· < base)
  let n := Binary64.digitsValue base ds
  if ds.isEmpty || (base != 16 && 0x8000000000000000 ≤ n) then none
  else some (.int n, cs.drop ds.length)

/-- A number with a point or an exponent. -/
def decimalNumber (whole frac : List Char) (e : Int) (rest : List Char) : Option (Token × List Char) :=
  (Double.ofDecimal false (Binary64.digitsValue 10 (whole ++ frac)) (e - frac.length)).map fun d => (.float d, rest)

/-- What follows the mark of an exponent. -/
def readExponent (whole frac cs : List Char) : Option (Token × List Char) :=
  let (negative, cs) : Bool × List Char := match cs with
    | '-' :: r => (true, r)
    | '+' :: r => (false, r)
    | r => (false, r)
  let ds := cs.takeWhile Char.isDigit
  let e : Int := Binary64.digitsValue 10 ds
  if ds.isEmpty then none else decimalNumber whole frac (if negative then -e else e) (cs.drop ds.length)

/-- Whether an exponent starts here. -/
def startsExponent : List Char → Bool
  | c :: _ => c == 'e' || c == 'E'
  | [] => false

/-- A number at the start of a text. A whole number other than zero starts with no zero. -/
def readNumber (cs : List Char) : Option (Token × List Char) :=
  match cs with
  | '0' :: x :: rest =>
    if x = 'x' ∨ x = 'X' then basedNumber 16 rest
    else if x = 'o' ∨ x = 'O' then basedNumber 8 rest
    else if x = 'b' ∨ x = 'B' then basedNumber 2 rest
    else decimal cs
  | _ => decimal cs
where
  /-- A decimal number. -/
  decimal (cs : List Char) : Option (Token × List Char) :=
    let whole := cs.takeWhile Char.isDigit
    match cs.drop whole.length with
    | '.' :: r =>
      let frac := r.takeWhile Char.isDigit
      let r := r.drop frac.length
      if startsExponent r then readExponent whole frac (r.drop 1) else decimalNumber whole frac 0 r
    | r =>
      if startsExponent r then readExponent whole [] (r.drop 1)
      else if 1 < whole.length ∧ whole.head? = some '0' ∧ whole.any (· ≠ '0') then none
      else some (.int (Binary64.digitsValue 10 whole), r)

/-! ## Strings -/

/-- The bytes that an escape stands for, and what follows it. `bytes` says that any byte may be
written by its number, and not only ASCII. -/
def readEscape (bytes : Bool) (cs : List Char) : Option (Bytes × List Char) :=
  let byte (n : Nat) (r : List Char) : Option (Bytes × List Char) :=
    if n < 0x80 ∨ (bytes ∧ n < 0x100) then some ([n.toUInt8], r) else none
  let char (width : Nat) (r : List Char) : Option (Bytes × List Char) := do
    if r.length < width then none
    let n ← hexNumber? (r.take width)
    if n.isValidChar then some (Utf8.encodeChar (Char.ofNat n), r.drop width) else none
  match cs with
  | 'n' :: r => some ([0x0A], r)
  | 't' :: r => some ([0x09], r)
  | 'r' :: r => some ([0x0D], r)
  | 'a' :: r => some ([0x07], r)
  | 'b' :: r => some ([0x08], r)
  | 'f' :: r => some ([0x0C], r)
  | 'v' :: r => some ([0x0B], r)
  | '\\' :: r => some ([0x5C], r)
  | '\'' :: r => some ([0x27], r)
  | '"' :: r => some ([0x22], r)
  | '\n' :: r => some ([], r)
  | 'x' :: a :: b :: r => do byte (← hexNumber? [a, b]) r
  | 'u' :: r => char 4 r
  | 'U' :: r => char 8 r
  | cs =>
    let ds := (cs.take 3).takeWhile fun c => '0' ≤ c ∧ c ≤ '7'
    if ds.isEmpty then none else byte (Binary64.digitsValue 8 ds) (cs.drop ds.length)

/-- The bytes of a string literal up to its closing quotes, read so far in reverse. `fuel` bounds the
number of steps. -/
def readString (raw bytes : Bool) (close : List Char) :
    (fuel : Nat) → (sofar : Bytes) → List Char → Option (Bytes × List Char)
  | 0, _, _ => none
  | _ + 1, _, [] => none
  | fuel + 1, sofar, c :: rest =>
    if close.isPrefixOf (c :: rest) then some (sofar.reverse, (c :: rest).drop close.length)
    else if c = '\\' then
      if raw then
        match rest with
        | d :: rest' => readString raw bytes close fuel ((Utf8.encodeChar d).reverse ++ 0x5C :: sofar) rest'
        | [] => none
      else
        match readEscape bytes rest with
        | some (b, rest') => readString raw bytes close fuel (b.reverse ++ sofar) rest'
        | none => none
    else if c = '\n' ∧ close.length = 1 then none
    else readString raw bytes close fuel ((Utf8.encodeChar c).reverse ++ sofar) rest

/-- A string literal at the start of a text, after the letters before its quotes. -/
def readQuoted (raw bytes : Bool) (cs : List Char) : Option (Token × List Char) :=
  match cs with
  | q :: rest =>
    let triple := [q, q, q]
    let (close, body) := if triple.isPrefixOf cs then (triple, cs.drop 3) else ([q], rest)
    (readString raw bytes close (body.length + 1) [] body).map fun s => (if bytes then .bytes s.1 else .string s.1, s.2)
  | [] => none

/-- Whether a text starts with a quote. -/
def startsQuoted : List Char → Bool
  | c :: _ => c == '"' || c == '\''
  | [] => false

/-! ## Lines -/

/-- The depth of a line and what follows it. A tab goes on to a multiple of eight, counted in
characters. -/
def indentation : (count column : Nat) → List Char → Nat × List Char
  | i, n, ' ' :: rest => indentation (i + 1) (n + 1) rest
  | i, n, '\t' :: rest => indentation (i + 1) (n + (8 - i % 8)) rest
  | _, n, cs => (n, cs)

/-- The number of blocks that end where a line has a depth, and the blocks that stay open; none where
no open block has that depth. -/
def closeBlocks (depth : Nat) : List Nat → Option (Nat × List Nat)
  | [] => none
  | top :: below =>
    if top = depth then some (0, top :: below)
    else if top < depth then none
    else (closeBlocks depth below).map fun r => (r.1 + 1, r.2)

/-- What follows a comment. -/
def skipComment (cs : List Char) : List Char := cs.dropWhile fun c => c ≠ '\n' ∧ c ≠ endMark

/-- The token at the start of a text that starts one, and what follows it. -/
def readToken (cs : List Char) : Option (Token × List Char) :=
  match cs with
  | [] => none
  | c :: rest =>
    if startsQuoted cs then readQuoted false false cs
    else if c = 'r' ∧ startsQuoted rest then readQuoted true false rest
    else if c = 'b' ∧ startsQuoted rest then readQuoted false true rest
    else if c = 'r' ∧ rest.head? = some 'b' ∧ startsQuoted (rest.drop 1) then readQuoted true true (rest.drop 1)
    else if isNameStart c then
      let word := cs.takeWhile isNamePart
      let n := String.ofList word
      let t : Token := if keywords.contains n then .keyword n else if reservedWords.contains n then .reserved else .name n
      some (t, cs.drop word.length)
    else if c.isDigit ∨ (c = '.' ∧ rest.head?.any Char.isDigit) then readNumber cs
    else (operators.find? fun o => o.toList.isPrefixOf cs).map fun o => (.op o, cs.drop o.length)

/-- The tokens of a script, the last of them first. `depth` counts open brackets, `blocks` holds the
depths of the open blocks, and `start` says that a line begins here. -/
def tokens : (fuel depth : Nat) → (blocks : List Nat) → (start : Bool) → (sofar : List Token) → List Char →
    Option (List Token)
  | 0, _, _, _, _, _ => none
  | fuel + 1, depth, blocks, true, sofar, cs =>
    let (column, rest) := indentation 0 0 cs
    match rest with
    | '\n' :: rest' => tokens fuel depth blocks true sofar rest'
    | '#' :: rest' => tokens fuel depth blocks true sofar (skipComment rest')
    | [] => some (List.replicate (blocks.length - 1) .dedent ++ sofar)
    | c :: _ =>
      if c = endMark then some (List.replicate (blocks.length - 1) .dedent ++ sofar)
      else if (blocks.head?.getD 0) < column then
        tokens fuel depth (column :: blocks) false (.indent :: sofar) rest
      else
        match closeBlocks column blocks with
        | some (n, blocks) => tokens fuel depth blocks false (List.replicate n .dedent ++ sofar) rest
        | none => none
  | fuel + 1, depth, blocks, false, sofar, cs =>
    let ended :=
      if blocks.length ≤ 1 then some sofar else some (List.replicate (blocks.length - 1) .dedent ++ .newline :: sofar)
    match cs with
    | [] => ended
    | '\n' :: rest =>
      if depth = 0 then tokens fuel depth blocks true (.newline :: sofar) rest
      else tokens fuel depth blocks false sofar rest
    | '\\' :: '\n' :: rest => tokens fuel depth blocks false sofar rest
    | ' ' :: rest => tokens fuel depth blocks false sofar rest
    | '\t' :: rest => tokens fuel depth blocks false sofar rest
    | '#' :: rest => tokens fuel depth blocks false sofar (skipComment rest)
    | c :: _ =>
      if c = endMark then ended
      else
        match readToken cs with
        | none => none
        | some (t, rest) =>
          let opens := [Token.op "(", .op "[", .op "\x7b"].contains t
          let closes := [Token.op ")", .op "]", .op "\x7d"].contains t
          if closes ∧ depth = 0 then none
          else
            let depth := if opens then depth + 1 else if closes then depth - 1 else depth
            tokens fuel depth blocks false (t :: sofar) rest

/-- A text in which every line ends the same way. -/
def unifyLines : List Char → List Char
  | [] => []
  | '\r' :: '\n' :: cs => '\n' :: unifyLines cs
  | '\r' :: cs => '\n' :: unifyLines cs
  | c :: cs => c :: unifyLines cs

/-- The tokens of a script, or nothing where it cannot be read. -/
def scan (source : Bytes) : Option (List Token) :=
  let cs := unifyLines (Utf8.decode source)
  (tokens (2 * cs.length + 2) 0 [0] true [] cs).map List.reverse

end AuditShell.Prompt.Script
