import AuditShell.Number.Double
import AuditShell.Number.Word
import AuditShell.Text.Quoted
/-!
# Lengths of time

A length of time is written as numbers with units, such as `1h30m` or `1.5s`, after an optional sign.
It is counted in nanoseconds.
-/
namespace AuditShell.Duration

/-- Why a text is no length of time. -/
inductive Fault where
  | malformed (source : Bytes)
  | noUnit (source : Bytes)
  | unknownUnit (unit source : Bytes)
  deriving DecidableEq, Repr

/-- A text between quotes, in which only bytes of printable ASCII stand for themselves. -/
def cite (bs : Bytes) : Bytes :=
  let one (b : UInt8) : Bytes :=
    if b < 0x20 ∨ 0x80 ≤ b then text "\\x" ++ Utf8.encode (Quoted.hex 2 b.toNat)
    else if b = 0x22 ∨ b = 0x5C then [0x5C, b]
    else [b]
  text "\"" ++ bs.flatMap one ++ text "\""

/-- The message of a fault. -/
def Fault.message : Fault → Bytes
  | .malformed s => text "time: invalid duration " ++ cite s
  | .noUnit s => text "time: missing unit in duration " ++ cite s
  | .unknownUnit u s => text "time: unknown unit " ++ cite u ++ text " in duration " ++ cite s

/-- The nanoseconds of each unit. -/
def units : List (Bytes × Nat) :=
  [(text "ns", 1), (text "us", 1000), (text "µs", 1000), (text "μs", 1000), (text "ms", 1000000),
   (text "s", 1000000000), (text "m", 60000000000), (text "h", 3600000000000)]

/-- A decimal digit. -/
def isDigit (b : UInt8) : Bool := 0x30 ≤ b && b ≤ 0x39

/-- The number with the given digits. -/
def number (ds : Bytes) : Nat := ds.foldl (fun n d => 10 * n + (d.toNat - 0x30)) 0

/-- The digits of a fraction that are used, as a number and its count of places: a digit counts while
the number fits a word. -/
def fractionDigits : Bytes → (sofar places : Nat) → Nat × Nat
  | [], n, k => (n, k)
  | d :: ds, n, k =>
    let m := 10 * n + (d.toNat - 0x30)
    if (Word.half - 1) / 10 < n ∨ Word.half < m then (n, k) else fractionDigits ds m (k + 1)

/-- The nanoseconds of a fraction of a unit. The unit is divided first, the quotient is then
multiplied, and both results are rounded as double-precision numbers are. -/
def fraction (digits : Bytes) (size : Nat) : Nat :=
  let (n, places) := fractionDigits digits 0 0
  let digit := Double.nearest size (Nat.pow 10 places)
  let (a, b) := (Double.nearest n 1).ratio
  let (c, d) := digit.ratio
  let (num, den) := (Double.nearest (a * c) (b * d)).ratio
  num / den

/-- The sum of the numbers with units that a text consists of. -/
def terms (source : Bytes) : (fuel : Nat) → Bytes → Nat → Except Fault Nat
  | 0, _, total => .ok total
  | _ + 1, [], total => .ok total
  | fuel + 1, rest, total => do
    let whole := rest.takeWhile isDigit
    let rest := rest.drop whole.length
    let (frac, rest) := match rest with
      | 0x2E :: r => (r.takeWhile isDigit, r.dropWhile isDigit)
      | r => ([], r)
    if whole = [] ∧ frac = [] then throw (.malformed source)
    if Word.half < number whole then throw (.malformed source)
    let unit := rest.takeWhile fun b => b ≠ 0x2E ∧ ¬ isDigit b
    if unit = [] then throw (.noUnit source)
    match units.lookup unit with
    | none => throw (.unknownUnit unit source)
    | some size =>
      let n := number whole * size + fraction frac size
      if Word.half < total + n then throw (.malformed source)
      terms source fuel (rest.drop unit.length) (total + n)

/-- The nanoseconds that a text says. -/
def parse (source : Bytes) : Except Fault Int := do
  let (negative, rest) : Bool × Bytes := match source with
    | 0x2D :: r => (true, r)
    | 0x2B :: r => (false, r)
    | r => (false, r)
  if rest = text "0" then return 0
  if rest = [] then throw (.malformed source)
  let n ← terms source rest.length rest 0
  if negative then return -n
  if Word.half ≤ n then throw (.malformed source)
  return n

end AuditShell.Duration
