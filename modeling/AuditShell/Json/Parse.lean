import AuditShell.Json.Value
/-!
# Reading JSON

`Value.parse` reads a whole text as one value. Stray bytes are read as U+FFFD, as is half of a
surrogate pair. Values nest at most ten thousand deep.
-/
namespace AuditShell.Json

/-- White space between the parts of a text. -/
def isSpace (c : Char) : Bool := c == ' ' || c == '\t' || c == '\n' || c == '\r'

/-- The text without the white space in front. -/
def skipSpace (cs : List Char) : List Char := cs.dropWhile isSpace

/-- The value of a hexadecimal digit. -/
def hexValue? (c : Char) : Option Nat :=
  if '0' ≤ c ∧ c ≤ '9' then some (c.toNat - 48)
  else if 'a' ≤ c ∧ c ≤ 'f' then some (c.toNat - 87)
  else if 'A' ≤ c ∧ c ≤ 'F' then some (c.toNat - 55)
  else none

/-- The number of four hexadecimal digits. -/
def hexQuad? (a b c d : Char) : Option Nat := do
  return (← hexValue? a) * 4096 + (← hexValue? b) * 256 + (← hexValue? c) * 16 + (← hexValue? d)

/-- The character of a one-letter escape. -/
def escaped? (c : Char) : Option Char :=
  if c = '"' ∨ c = '\\' ∨ c = '/' then some c
  else if c = 'b' then some '\x08'
  else if c = 'f' then some '\x0C'
  else if c = 'n' then some '\n'
  else if c = 'r' then some '\r'
  else if c = 't' then some '\t'
  else none

/-- Whether a number is the first half of a surrogate pair. -/
def isHigh (n : Nat) : Bool := 0xD800 ≤ n && n < 0xDC00

/-- Whether a number is the second half of a surrogate pair. -/
def isLow (n : Nat) : Bool := 0xDC00 ≤ n && n < 0xE000

/-- The character of a surrogate pair. -/
def joinPair (high low : Nat) : Char := Char.ofNat (0x10000 + (high - 0xD800) * 0x400 + (low - 0xDC00))

/-- A first half that nothing completed is one replacement character. -/
def unpaired (high : Option Nat) (s : List Char × List Char) : List Char × List Char :=
  match high with
  | none => s
  | some _ => (replacement :: s.1, s.2)

/-- The characters of a string after its opening quote and what follows the closing one. `high` is
the first half of a surrogate pair that has just been read. -/
def stringBody : (high : Option Nat) → List Char → Option (List Char × List Char)
  | high, '"' :: rest => some (unpaired high ([], rest))
  | high, '\\' :: 'u' :: a :: b :: c :: d :: rest =>
    match hexQuad? a b c d with
    | none => none
    | some n =>
      match high with
      | some h =>
        if isLow n then (stringBody none rest).map fun s => (joinPair h n :: s.1, s.2)
        else if isHigh n then (stringBody (some n) rest).map fun s => (replacement :: s.1, s.2)
        else (stringBody none rest).map fun s => (replacement :: Char.ofNat n :: s.1, s.2)
      | none =>
        if isHigh n then stringBody (some n) rest
        else (stringBody none rest).map fun s => ((if isLow n then replacement else Char.ofNat n) :: s.1, s.2)
  | high, '\\' :: c :: rest =>
    match escaped? c with
    | none => none
    | some e => (stringBody none rest).map fun s => unpaired high (e :: s.1, s.2)
  | high, c :: rest =>
    if c.toNat < 0x20 ∨ c = '\\' then none
    else (stringBody none rest).map fun s => unpaired high (c :: s.1, s.2)
  | _, [] => none

/-- Whether a character is a decimal digit. -/
def isDigit (c : Char) : Bool := '0' ≤ c && c ≤ '9'

/-- One or more digits and what follows them. -/
def digits1 (cs : List Char) : Option (List Char × List Char) :=
  let ds := cs.takeWhile isDigit
  if ds.isEmpty then none else some (ds, cs.dropWhile isDigit)

/-- The integer part of a number: no zero in front of other digits. -/
def integerPart : List Char → Option (List Char × List Char)
  | '0' :: rest => some (['0'], rest)
  | cs => digits1 cs

/-- The fraction of a number, if there is one. -/
def fractionPart : List Char → Option (List Char × List Char)
  | '.' :: rest => (digits1 rest).map fun s => ('.' :: s.1, s.2)
  | cs => some ([], cs)

/-- The exponent of a number, if there is one. -/
def exponentPart : List Char → Option (List Char × List Char)
  | e :: s :: rest =>
    if e = 'e' ∨ e = 'E' then
      if s = '+' ∨ s = '-' then (digits1 rest).map fun r => (e :: s :: r.1, r.2)
      else (digits1 (s :: rest)).map fun r => (e :: r.1, r.2)
    else some ([], e :: s :: rest)
  | [c] => if c = 'e' ∨ c = 'E' then none else some ([], [c])
  | [] => some ([], [])

/-- A number at the start of a text. -/
def numberText (cs : List Char) : Option (List Char × List Char) := do
  let (sign, cs) := match cs with
    | '-' :: rest => (['-'], rest)
    | cs => ([], cs)
  let (i, cs) ← integerPart cs
  let (f, cs) ← fractionPart cs
  let (e, cs) ← exponentPart cs
  return (sign ++ i ++ f ++ e, cs)

mutual

/-- A value at the start of a text without white space in front. `fuel` bounds the number of steps
and `depth` the nesting. -/
def readValue : (fuel depth : Nat) → List Char → Option (Value × List Char)
  | 0, _, _ => none
  | fuel + 1, depth, cs =>
    match cs with
    | '"' :: rest => (stringBody none rest).map fun s => (.string (Utf8.encode s.1), s.2)
    | '[' :: rest =>
      match depth with
      | 0 => none
      | depth + 1 =>
        match skipSpace rest with
        | ']' :: rest' => some (.array [], rest')
        | rest' => (readElements fuel depth rest').map fun s => (.array s.1, s.2)
    | '\x7b' :: rest =>
      match depth with
      | 0 => none
      | depth + 1 =>
        match skipSpace rest with
        | '\x7d' :: rest' => some (.object [], rest')
        | rest' => (readMembers fuel depth rest').map fun s => (.object s.1, s.2)
    | 'n' :: 'u' :: 'l' :: 'l' :: rest => some (.null, rest)
    | 't' :: 'r' :: 'u' :: 'e' :: rest => some (.bool true, rest)
    | 'f' :: 'a' :: 'l' :: 's' :: 'e' :: rest => some (.bool false, rest)
    | cs => (numberText cs).map fun s => (.number (Utf8.encode s.1), s.2)

/-- The elements of a non-empty array up to its closing bracket. -/
def readElements : (fuel depth : Nat) → List Char → Option (List Value × List Char)
  | 0, _, _ => none
  | fuel + 1, depth, cs =>
    match readValue fuel depth cs with
    | none => none
    | some (v, rest) =>
      match skipSpace rest with
      | ',' :: rest' => (readElements fuel depth (skipSpace rest')).map fun s => (v :: s.1, s.2)
      | ']' :: rest' => some ([v], rest')
      | _ => none

/-- The members of a non-empty object up to its closing brace. -/
def readMembers : (fuel depth : Nat) → List Char → Option (List (Bytes × Value) × List Char)
  | 0, _, _ => none
  | fuel + 1, depth, cs =>
    match cs with
    | '"' :: rest =>
      match stringBody none rest with
      | none => none
      | some (k, rest) =>
        match skipSpace rest with
        | ':' :: rest =>
          match readValue fuel depth (skipSpace rest) with
          | none => none
          | some (v, rest) =>
            match skipSpace rest with
            | ',' :: rest' =>
              (readMembers fuel depth (skipSpace rest')).map fun s => ((Utf8.encode k, v) :: s.1, s.2)
            | '\x7d' :: rest' => some ([(Utf8.encode k, v)], rest')
            | _ => none
        | _ => none
    | _ => none

end

/-- How deep values may nest. -/
def maxDepth : Nat := 10000

/-- The value that a text of characters consists of. -/
def parseChars (cs : List Char) : Option Value :=
  match readValue (2 * cs.length + 2) maxDepth (skipSpace cs) with
  | some (v, rest) => if (skipSpace rest).isEmpty then some v else none
  | none => none

/-- The value that a text consists of. -/
def Value.parse (t : Bytes) : Option Value := parseChars (Utf8.decode t)

end AuditShell.Json
