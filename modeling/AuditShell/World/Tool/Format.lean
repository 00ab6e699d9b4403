import AuditShell.Number.Word
import AuditShell.World.Quote
import AuditShell.World.Tool.Write
/-!
# Formats

`printf` writes its arguments by a format. Integers are words of 64 bits; numbers with a fraction are
rounded to 64 binary digits before they are written.
-/
namespace AuditShell.World.Tool

open Program

/-! ## Digits -/

/-- Digits of a number, with zeros before them up to a count. -/
def countedDigits (count n : Nat) : Bytes :=
  let ds := text (toString n)
  List.replicate (count - ds.length) 0x30 ++ ds

/-- A point and what follows it, without a point where nothing follows unless one is asked for. -/
def afterPoint (ds : Bytes) (always : Bool) : Bytes := if ds.isEmpty && !always then [] else text "." ++ ds

/-- A fraction with a number of places after its point. -/
def fixedText (places : Nat) (always : Bool) (num den : Nat) : Bytes :=
  let ds := countedDigits (places + 1) (Double.roundDiv (num * Nat.pow 10 places) den)
  ds.take (ds.length - places) ++ afterPoint (ds.drop (ds.length - places)) always

/-- The digits of a fraction, one before and `places` after the point, and the power of ten of the first. -/
def leadingDigits (places : Nat) (num den : Nat) : Bytes × Int :=
  if num = 0 then (List.replicate (places + 1) 0x30, 0)
  else
    let guess : Int := ((Nat.log2 num : Int) - Nat.log2 den) * 30103 / 100000
    let at' (x : Int) : Nat :=
      let (up, down) := power 10 (places - x)
      Double.roundDiv (num * up) (den * down)
    let fits (x : Int) : Bool := Nat.pow 10 places ≤ at' x && at' x < Nat.pow 10 (places + 1)
    let x := ([guess - 1, guess, guess + 1].find? fits).getD (guess + 2)
    (countedDigits (places + 1) (at' x), x)

/-- A fraction with an exponent, from its digits. -/
def scientificText (mark : UInt8) (always : Bool) (ds : Bytes) (x : Int) : Bytes :=
  ds.take 1 ++ afterPoint (ds.drop 1) always ++ [mark] ++ (if x < 0 then text "-" else text "+") ++
    countedDigits 2 x.natAbs

/-- A text of digits without the zeros at its end. -/
def trimZeros (ds : Bytes) : Bytes := (ds.reverse.dropWhile (· = 0x30)).reverse

/-- A fraction in base sixteen, with a power of two. The first digit has its highest bit set. -/
def binaryText (precision : Option Nat) (always : Bool) (num den : Nat) : Bytes :=
  let hex (count n : Nat) : Bytes :=
    let ds := text (String.ofList (Nat.toDigits 16 n))
    List.replicate (count - ds.length) 0x30 ++ ds
  if num = 0 then text "0x0" ++ afterPoint (List.replicate (precision.getD 0) 0x30) always ++ text "p+0"
  else
    let high : Int := (Nat.log2 num : Int) - Nat.log2 den
    let (up, down) := power 2 high
    let high := if num * down < den * up then high - 1 else high
    let places := precision.getD 15
    let (up, down) := power 2 (4 * places + 3 - high)
    let m := Double.roundDiv (num * up) (den * down)
    let (m, high) := if m < Nat.pow 16 (places + 1) then (m, high) else (m / 16, high + 4)
    let ds := hex (places + 1) m
    let part := if precision.isSome then ds.drop 1 else trimZeros (ds.drop 1)
    let e := high - 3
    text "0x" ++ ds.take 1 ++ afterPoint part always ++ (if e < 0 then text "p-" else text "p+") ++
      text (toString e.natAbs)

/-- A text in capitals. -/
def capitals (b : Bytes) : Bytes := b.map fun x => if 0x61 ≤ x && x ≤ 0x7A then x - 0x20 else x

/-- A quantity without its sign, by the letter of its conversion. -/
def quantityText (letter : UInt8) (precision : Option Nat) (always : Bool) : Quantity → Bytes
  | .infinite _ => if letter < 0x61 then text "INF" else text "inf"
  | .undefined _ => if letter < 0x61 then text "NAN" else text "nan"
  | .finite _ num den =>
    let p := precision.getD 6
    if letter = 0x66 || letter = 0x46 then fixedText p always num den
    else if letter = 0x61 then binaryText precision always num den
    else if letter = 0x41 then capitals (binaryText precision always num den)
    else if letter = 0x65 || letter = 0x45 then
      let (ds, x) := leadingDigits p num den
      scientificText letter always ds x
    else
      let p := max p 1
      let (ds, x) := leadingDigits (p - 1) num den
      if -4 ≤ x && x < p then
        let whole := fixedText (p - 1 - x).toNat always num den
        if always || !whole.elem 0x2E then whole
        else
          let kept := trimZeros whole
          if kept.getLast? = some 0x2E then kept.dropLast else kept
      else scientificText (letter - 2) always (if always then ds else ds.take 1 ++ trimZeros (ds.drop 1)) x

/-- Whether a quantity has a minus sign. -/
def Quantity.isNegative : Quantity → Bool
  | .finite negative _ _ | .infinite negative | .undefined negative => negative

/-! ## Conversions -/

/-- A conversion of a format. -/
structure Conversion where
  /-- The text of the conversion after the percent sign. -/
  source : Bytes
  flags : Bytes
  width : Nat
  precision : Option Nat
  letter : Option UInt8

/-- Whether the flags, the width and the precision of a conversion go with its letter. -/
def Conversion.isAllowed (c : Conversion) : Bool :=
  c.letter.all fun l =>
    if l = 0x62 || l = 0x71 then c.source.length = 1
    else
      !(c.flags.elem 0x27 && (text "aAceEosxX").elem l) && !(c.flags.elem 0x23 && (text "cdisu").elem l) &&
        !(c.flags.elem 0x30 && (text "cs").elem l) && !(c.precision.isSome && l = 0x63)

/-- Fills a text up to the width of its conversion. -/
def Conversion.pad (c : Conversion) (b : Bytes) : Bytes :=
  let room := List.replicate (c.width - b.length) 0x20
  if c.flags.elem 0x2D then b ++ room else room ++ b

/-- The digits of a number in a base, at least one. -/
def digitsOf (base n : Nat) : Bytes := (Nat.toDigits base n).map fun c => c.toNat.toUInt8

/-- The sign that a conversion puts before a number. -/
def Conversion.sign (c : Conversion) (negative : Bool) : Bytes :=
  if negative then text "-" else if c.flags.elem 0x2B then text "+" else if c.flags.elem 0x20 then text " " else []

/-- A text with a sign before it, filled with blanks, or with zeros where they are asked for. -/
def Conversion.fill (c : Conversion) (zeros : Bool) (sign body : Bytes) : Bytes :=
  if zeros && c.flags.elem 0x30 && !c.flags.elem 0x2D then
    sign ++ List.replicate (c.width - sign.length - body.length) 0x30 ++ body
  else c.pad (sign ++ body)

/-- An integer written as its conversion asks. -/
def Conversion.number (c : Conversion) (n : Int) : Bytes :=
  let letter := c.letter.getD 0x64
  let signed := letter = 0x64 || letter = 0x69
  let size : Nat := if signed then n.natAbs else if n < 0 then Nat.pow 2 64 - n.natAbs else n.natAbs
  let ds := if letter = 0x78 then digitsOf 16 size
    else if letter = 0x58 then (digitsOf 16 size).map fun b => if 0x61 ≤ b then b - 0x20 else b
    else if letter = 0x6F then digitsOf 8 size else digitsOf 10 size
  let sign := if signed then c.sign (n < 0)
    else if c.flags.elem 0x23 && size ≠ 0 then
      (if letter = 0x78 then text "0x" else if letter = 0x58 then text "0X"
        else if letter = 0x6F then text "0" else [])
    else []
  match c.precision with
  | some p => c.pad (sign ++ List.replicate (p - ds.length) 0x30 ++ ds)
  | none => c.fill true sign ds

/-- A quantity written as its conversion asks. -/
def Conversion.quantity (c : Conversion) (q : Quantity) : Bytes :=
  let body := quantityText (c.letter.getD 0x66) c.precision (c.flags.elem 0x23) q
  let zeros := match q with
    | .finite .. => true
    | _ => false
  c.fill zeros (c.sign q.isNegative) body

/-- What is wrong with a format or an argument. -/
inductive Mistake where
  /-- A conversion that there is not, with its text. -/
  | unknown (source : Bytes)
  /-- A conversion without a letter. -/
  | unfinished (source : Bytes)
  | notNumeric (a : Bytes)
  | partNumeric (a : Bytes)
  | outOfRange (a : Bytes)
  /-- Bytes after the one that stands for its number. -/
  | ignored (rest : Bytes)
  /-- An escape without the digits that it needs. -/
  | noDigits
  /-- An escape for what is no character. -/
  | noCharacter (escape : Bytes)
  deriving DecidableEq, Repr

namespace Mistake

/-- How the program words a mistake. -/
def words : Mistake → Bytes
  | .unknown s | .unfinished s => text "%" ++ s ++ text ": invalid conversion specification"
  | .notNumeric a => Quote.quote a ++ text ": expected a numeric value"
  | .partNumeric a => Quote.quote a ++ text ": value not completely converted"
  | .outOfRange a => Quote.quote a ++ text ": Numerical result out of range"
  | .ignored rest => text "warning: " ++ rest ++ text ": character(s) following character constant have been ignored"
  | .noDigits => text "missing hexadecimal number in escape"
  | .noCharacter e => text "invalid universal character name " ++ e

/-- How a command interpreter words a mistake. -/
def shortWords : Mistake → Bytes
  | .unknown s => text "%" ++ (s.getLast?).toList ++ text ": invalid directive"
  | .unfinished _ => text "missing format character"
  | .notNumeric a => a ++ text ": expected numeric value"
  | .partNumeric a => a ++ text ": not completely converted"
  | .outOfRange a => a ++ text ": Numerical result out of range"
  | .ignored _ | .noDigits | .noCharacter _ => []

/-- Whether a mistake is one of the format itself. -/
def isFatal : Mistake → Bool
  | .unknown _ | .unfinished _ => true
  | _ => false

/-- Whether a mistake is only worth a warning. -/
def isHarmless : Mistake → Bool
  | .ignored _ => true
  | _ => false

end Mistake

/-- The first byte of an argument that starts with a quote. -/
def quotedByte? : Bytes → Option Nat
  | q :: b :: _ => if q = 0x27 || q = 0x22 then some b.toNat else none
  | _ => none

/-- The integer at the start of an argument, decimal or in the base that its first digits say, and what is
wrong with the argument. -/
def numberOf (a : Bytes) : Int × Option Mistake :=
  match quotedByte? a with
  | some n => (n, none)
  | none =>
    let b := a.dropWhile fun x => x = 0x20 || (0x09 ≤ x && x ≤ 0x0D)
    let negative := b.head? = some 0x2D
    let b := if negative || b.head? = some 0x2B then b.tail else b
    let hex := ((text "0x").isPrefixOf b || (text "0X").isPrefixOf b) &&
      ((b.drop 2).head?.bind (digitIn? 16)).isSome
    let (base, ds) := if hex then (16, b.drop 2) else if b.head? = some 0x30 then (8, b) else (10, b)
    let (n, rest) := digits base ds.length 0 ds
    let value : Int := if negative then -n else n
    if rest.length = ds.length then (0, if a.isEmpty then none else some (.notNumeric a))
    else if value < Word.least then (Word.least, some (.outOfRange a))
    else if Word.half ≤ value then (Word.half - 1, some (.outOfRange a))
    else if rest.isEmpty then (value, none)
    else (value, some (.partNumeric a))

/-- The quantity that an argument says, and what is wrong with the argument. -/
def quantityOf (a : Bytes) : Quantity × Option Mistake :=
  match quotedByte? a with
  | some n => (.finite false n 1, none)
  | none =>
    match quantity? a with
    | none => (.finite false 0 1, if a.isEmpty then none else some (.notNumeric a))
    | some (q, rest) => (q, if rest.isEmpty then none else some (.partNumeric a))

/-! ## Formats -/

/-- Which of two programs reads the format. -/
inductive Dialect where
  | program
  | interpreter
  deriving DecidableEq, Repr

/-- How far a format has been used. -/
structure Printed where
  out : Bytes := []
  mistakes : List Mistake := []
  args : List Bytes
  /-- Whether an argument was asked for. -/
  used : Bool := false
  /-- Whether nothing more is written. -/
  stopped : Bool := false

namespace Printed

/-- Writes more. -/
def put (p : Printed) (b : Bytes) : Printed := { p with out := p.out ++ b }

/-- Takes the next argument, which is empty where there is none. -/
def take (p : Printed) : Bytes × Printed := (p.args.headD [], { p with args := p.args.tail, used := true })

/-- Notes a mistake, if there is one. -/
def note (p : Printed) (m : Option Mistake) : Printed := { p with mistakes := p.mistakes ++ m.toList }

/-- Notes a mistake in the format, after which nothing more is written. -/
def stop (p : Printed) (m : Mistake) : Printed := { p.note (some m) with stopped := true }

/-- Writes what a backslash and what follows it stand for, and gives the rest. `octalZero` says that a zero
can stand before the octal digits. -/
def putEscape (octalZero : Bool) (p : Printed) (b : UInt8) (rest : Bytes) : Printed × Bytes :=
  if b = 0x63 then ({ p with stopped := true }, [])
  else if b = 0x22 then (p.put [b], rest)
  else if b = 0x75 || b = 0x55 then
    let need := if b = 0x75 then 4 else 8
    let (n, after) := digits 16 need 0 rest
    let shown := text "\\" ++ [b] ++ rest.take need
    if rest.length - after.length < need then (p.stop .noDigits, [])
    else if 0xD800 ≤ n && n ≤ 0xDFFF then (p.stop (.noCharacter shown), [])
    else if n < 0x80 then (p.put [n.toUInt8], after)
    else
      let ds := capitals (text (String.ofList (Nat.toDigits 16 n)))
      let (mark, count) := if n < 0x10000 then ("\\u", 4) else ("\\U", 8)
      (p.put (text mark ++ List.replicate (count - ds.length) 0x30 ++ ds), after)
  else if b = 0x78 && !(rest.head?.any fun x => (digitIn? 16 x).isSome) then (p.stop .noDigits, [])
  else
    let (shown, rest) := escape octalZero b rest
    (p.put shown, rest)

/-- Writes a text in which backslashes stand for other bytes. `fuel` bounds the number of steps. -/
def putEscaped : (fuel : Nat) → Bytes → Printed → Printed
  | 0, _, p => p
  | _ + 1, [], p => p
  | fuel + 1, b :: rest, p =>
    match b, rest with
    | 0x5C, c :: rest =>
      let (p, rest) := p.putEscape true c rest
      if p.stopped then p else putEscaped fuel rest p
    | _, _ => putEscaped fuel rest (p.put [b])

/-- A number of a conversion: digits, or a star that takes an argument. -/
def count (p : Printed) (f : Bytes) : Option Int × Printed × Bytes :=
  if f.head? = some 0x2A then
    let (a, p) := p.take
    let (n, m) := numberOf a
    (some n, p.note m, f.tail)
  else
    let ds := f.takeWhile fun b => (digitIn? 10 b).isSome
    ((number? ds).map fun n => (n : Int), p, f.drop ds.length)

/-- The bytes that an argument with a quote has too many. -/
def excess (d : Dialect) (a : Bytes) : Option Mistake :=
  if d = .program && (quotedByte? a).isSome && 2 < a.length then some (.ignored (a.drop 2)) else none

/-- Reads a conversion, and gives what follows it. -/
def conversion (d : Dialect) (p : Printed) (f : Bytes) : Conversion × Printed × Bytes :=
  let isFlag (b : UInt8) : Bool := (text "-+ #0'").elem b
  let flags := f.takeWhile isFlag
  let (width, p, rest) := p.count (f.drop flags.length)
  let (precision, p, rest) : Option Int × Printed × Bytes :=
    if rest.head? = some 0x2E then
      let (n, p, rest) := p.count rest.tail
      (some (n.getD 0), p, rest)
    else (none, p, rest)
  let rest := if d = .program then rest.dropWhile fun b => (text "hlLjzt").elem b else rest
  let width := width.getD 0
  let flags := if width < 0 then 0x2D :: flags else flags
  let precision := (precision.filter fun n => 0 ≤ n).map Int.toNat
  (⟨f.take (f.length - rest.length + 1), flags, width.natAbs, precision, rest.head?⟩, p, rest.drop 1)

/-- Writes the next argument by a conversion. -/
def convert (d : Dialect) (p : Printed) (c : Conversion) : Printed :=
  match c.letter with
  | none => p.stop (.unfinished c.source)
  | some l =>
    let missing := p.args.isEmpty
    let (a, next) := p.take
    if d = .program && !c.isAllowed then p.stop (.unknown c.source)
    else if l = 0x73 then next.put (c.pad (match c.precision with
      | some n => a.take n
      | none => a))
    else if l = 0x63 then next.put (c.pad (if missing then [] else [a.headD 0]))
    else if l = 0x62 then
      match d with
      | .program => putEscaped (a.length + 1) a next
      | .interpreter =>
        let (b, stopped) := unescape true (a.length + 1) a
        { next.put (c.pad b) with stopped }
    else if l = 0x71 && d = .program then next.put (Quote.shell a)
    else if (text "diouxX").elem l then
      let (n, m) := numberOf a
      ((next.put (c.number n)).note m).note (excess d a)
    else if (text "aAeEfFgG").elem l then
      let (q, m) := quantityOf a
      ((next.put (c.quantity q)).note m).note (excess d a)
    else p.stop (.unknown c.source)

end Printed

/-- One pass over a format. `fuel` bounds the number of steps. -/
def format (d : Dialect) : (fuel : Nat) → Bytes → Printed → Printed
  | 0, _, p => p
  | _ + 1, [], p => p
  | fuel + 1, b :: rest, p =>
    if p.stopped then p
    else if b = 0x25 then
      if rest.head? = some 0x25 then format d fuel rest.tail (p.put [0x25])
      else
        let (c, p, rest) := p.conversion d rest
        format d fuel rest (p.convert d c)
    else if b = 0x5C then
      match rest with
      | [] => p.put [b]
      | c :: rest =>
        if d = .program then
          let (p, rest) := p.putEscape false c rest
          if p.stopped then p else format d fuel rest p
        else if c = 0x78 then format d fuel rest (p.put [b, c])
        else
          let (shown, rest) := escape false c rest
          format d fuel rest (p.put shown)
    else format d fuel rest (p.put [b])

/-- The format used again as long as arguments are left. -/
def formatAll (d : Dialect) : (fuel : Nat) → Bytes → Printed → Printed
  | 0, _, p => p
  | fuel + 1, f, p =>
    let p := format d (f.length + 1) f { p with used := false }
    if p.used && !p.stopped && !p.args.isEmpty then formatAll d fuel f p else p

/-- Writes its arguments by a format. -/
def printf (e : Surroundings) (args : List Bytes) : Outcome :=
  match (if args.head? = some (text "--") then args.tail else args) with
  | [] => misused e "printf" 1 (text "missing operand")
  | f :: rest =>
    let p := formatAll .program (rest.length + 1) f { args := rest }
    let excess := if p.stopped then [] else p.args.head?.toList.map fun a =>
      text "warning: ignoring excess arguments, starting with " ++ Quote.quote a
    let said := (p.mistakes.map Mistake.words ++ excess).map fun c => (Stream.err, text "printf: " ++ c ++ text "\n")
    { writes := said ++ [(.out, p.out)]
      disk := e.disk
      ended := .code (if p.mistakes.all Mistake.isHarmless then 0 else 1) }

end AuditShell.World.Tool
