import AuditShell.Number.Double
/-!
# Double-precision arithmetic

All numbers of the binary64 format: the finite ones, the infinite ones and the one that is no number.
Each operation computes the exact result and rounds it once. The order is total: what is no number
comes last and equals itself.
-/
namespace AuditShell

/-- A number of the binary64 format. -/
inductive Binary64 where
  | finite (d : Double)
  | infinite (negative : Bool)
  | nan
  deriving DecidableEq, Repr

namespace Binary64

instance : Inhabited Binary64 := ⟨.finite default⟩

/-- The number nearest to a fraction; a fraction that is too large is infinite. -/
def ofRatio (negative : Bool) (num den : Nat) : Binary64 :=
  match Double.ofRatio negative num den with
  | some d => .finite d
  | none => .infinite negative

/-- The number nearest to an integer. -/
def ofInt (n : Int) : Binary64 := ofRatio (n < 0) n.natAbs 1

/-- The numerator of a finite number, with its sign, and its denominator. -/
def fraction (d : Double) : Int × Nat :=
  let (n, m) := d.ratio
  (if d.negative then -(n : Int) else n, m)

/-- Whether a number is zero, of either sign. -/
def isZero : Binary64 → Bool
  | .finite d => d.mantissa == 0
  | _ => false

/-- Whether a number lies below zero. -/
def isBelowZero : Binary64 → Bool
  | .finite d => d.negative && d.mantissa != 0
  | .infinite negative => negative
  | .nan => false

/-- The number with the other sign. -/
def neg : Binary64 → Binary64
  | .finite d => .finite { d with negative := !d.negative }
  | .infinite negative => .infinite !negative
  | .nan => .nan

/-- The number without its sign. -/
def abs : Binary64 → Binary64
  | .finite d => .finite { d with negative := false }
  | .infinite _ => .infinite false
  | .nan => .nan

/-- The sum. A sum of zero is positive unless both summands are negative. -/
def add : Binary64 → Binary64 → Binary64
  | .finite a, .finite b =>
    let (n, m) := fraction a
    let (p, q) := fraction b
    let sum := n * q + p * m
    if sum = 0 then .finite (Double.zero (a.negative && b.negative))
    else ofRatio (sum < 0) sum.natAbs (m * q)
  | .infinite a, .infinite b => if a = b then .infinite a else .nan
  | .infinite a, .finite _ => .infinite a
  | .finite _, .infinite b => .infinite b
  | _, _ => .nan

/-- The difference. -/
def sub (x y : Binary64) : Binary64 := add x y.neg

/-- Whether the sign of a number is negative. -/
def sign : Binary64 → Bool
  | .finite d => d.negative
  | .infinite negative => negative
  | .nan => false

/-- The product. -/
def mul (x y : Binary64) : Binary64 :=
  match x, y with
  | .nan, _ => .nan
  | _, .nan => .nan
  | .finite a, .finite b =>
    let (n, m) := a.ratio
    let (p, q) := b.ratio
    ofRatio (a.negative != b.negative) (n * p) (m * q)
  | _, _ => if x.isZero || y.isZero then .nan else .infinite (x.sign != y.sign)

/-- The quotient. -/
def div (x y : Binary64) : Binary64 :=
  let negative := x.sign != y.sign
  match x, y with
  | .finite a, .finite b =>
    let (n, m) := a.ratio
    let (p, q) := b.ratio
    if p = 0 then (if n = 0 then .nan else .infinite negative) else ofRatio negative (n * q) (m * p)
  | .infinite _, .finite _ => .infinite negative
  | .finite _, .infinite _ => .finite (Double.zero negative)
  | _, _ => .nan

/-- The greatest integer that does not exceed the number. -/
def floor : Binary64 → Binary64
  | .finite d =>
    let (n, m) := fraction d
    let whole := Int.fdiv n m
    if whole = 0 then .finite (Double.zero d.negative) else ofInt whole
  | x => x

/-- The remainder of a division rounded toward zero, which has the sign of the dividend. -/
def rem : Binary64 → Binary64 → Binary64
  | .finite a, .finite b =>
    let (n, m) := a.ratio
    let (p, q) := b.ratio
    if p = 0 then .nan else ofRatio a.negative (n * q % (p * m)) (m * q)
  | .finite a, .infinite _ => .finite a
  | _, _ => .nan

/-- The remainder with the sign of the divisor. -/
def mod (x y : Binary64) : Binary64 :=
  let r := rem x y
  if x.isBelowZero != y.isBelowZero && !r.isZero then add r y else r

/-- The order of two fractions. -/
def compareFractions (x y : Int × Nat) : Ordering := compare (x.1 * y.2) (y.1 * x.2)

/-- The order of two numbers. -/
def order : Binary64 → Binary64 → Ordering
  | .finite a, .finite b => compareFractions (fraction a) (fraction b)
  | .nan, .nan => .eq
  | .nan, _ => .gt
  | _, .nan => .lt
  | .infinite a, .infinite b => if a = b then .eq else if a then .lt else .gt
  | .infinite a, .finite _ => if a then .lt else .gt
  | .finite _, .infinite b => if b then .gt else .lt

/-- The order of an integer and a number, which is not rounded for it. -/
def orderInt (n : Int) : Binary64 → Ordering
  | .finite d => compareFractions (n, 1) (fraction d)
  | .infinite negative => if negative then .gt else .lt
  | .nan => .lt

/-- The integer that is left without the digits after the point; only finite numbers have one. -/
def truncate? : Binary64 → Option Int
  | .finite d =>
    let (n, m) := fraction d
    some (Int.tdiv n m)
  | _ => none

/-! ## Texts -/

/-- The exponent of ten as a text: a sign and at least two digits. -/
def exponentText (mark : Char) (e : Int) : List Char :=
  let ds := Nat.toDigits 10 e.natAbs
  mark :: (if e < 0 then '-' else '+') :: (if ds.length = 1 then '0' :: ds else ds)

/-- Digits with a point after the first one, and an exponent. -/
def scientific (mark : Char) (ds : List Char) (e : Int) : List Char :=
  ds.take 1 ++ (if ds.length ≤ 1 then [] else '.' :: ds.drop 1) ++ exponentText mark e

/-- Seven digits of a positive fraction and the power of ten of the first. -/
def sevenDigits (num den : Nat) : Nat × Int :=
  let lead := Double.leadingPower num den
  let shift := 6 - lead
  let q := if 0 ≤ shift then Double.roundDiv (num * Nat.pow 10 shift.toNat) den
    else Double.roundDiv num (den * Nat.pow 10 (-shift).toNat)
  if q = 10000000 then (1000000, lead + 1) else (q, lead)

/-- The text with six digits after the point and an exponent. -/
def exponentForm (mark : Char) (d : Double) : List Char :=
  let (num, den) := d.ratio
  if num = 0 then scientific mark (List.replicate 7 '0') 0
  else
    let (q, e) := sevenDigits num den
    scientific mark (Nat.toDigits 10 q) e

/-- The text with six digits after the point. -/
def pointForm (d : Double) : List Char :=
  let (num, den) := d.ratio
  let q := Double.roundDiv (num * 1000000) den
  let ds := Nat.toDigits 10 (q % 1000000)
  Nat.toDigits 10 (q / 1000000) ++ '.' :: (List.replicate (6 - ds.length) '0' ++ ds)

/-- The text with the fewest digits that tell the number: with an exponent where the first digit
stands for less than `10 ^ -4` or for at least `10 ^ 6`, and else with a point. -/
def shortForm (mark : Char) (d : Double) : List Char :=
  let s := (Double.shortest d).trim 20
  let ds := Nat.toDigits 10 s.digits
  let count : Int := ds.length
  let point := if s.digits = 0 then 1 else count + s.power
  if point - 1 < -4 ∨ 6 ≤ point - 1 then scientific mark ds (point - 1)
  else if point ≤ 0 then '0' :: '.' :: (List.replicate (-point).toNat '0' ++ ds)
  else if count ≤ point then ds ++ List.replicate (point - count).toNat '0' ++ ['.', '0']
  else ds.take point.toNat ++ '.' :: ds.drop point.toNat

/-- How a number is written. -/
inductive Form where
  | short
  | exponent
  | point
  deriving DecidableEq, Repr

/-- The text of a number in a form; `mark` stands before the exponent. -/
def render (form : Form) (mark : Char) : Binary64 → List Char
  | .nan => ['n', 'a', 'n']
  | .infinite negative => (if negative then '-' else '+') :: ['i', 'n', 'f']
  | .finite d =>
    let body := match form with
      | .short => shortForm mark d
      | .exponent => exponentForm mark d
      | .point => pointForm d
    if d.negative then '-' :: body else body

/-! ## Reading -/

/-- Whether underscores stand only between digits. `last` is what stands before: a digit, an
underscore, or something else. -/
def groupedFrom (isDigit : Char → Bool) : (last : Option Bool) → List Char → Bool
  | last, [] => last != some false
  | last, '_' :: cs => last == some true && groupedFrom isDigit (some false) cs
  | last, c :: cs =>
    if isDigit c then groupedFrom isDigit (some true) cs
    else last != some false && groupedFrom isDigit none cs

/-- A hexadecimal digit. -/
def hexDigit? (c : Char) : Option Nat :=
  if c.isDigit then some (c.toNat - '0'.toNat)
  else if 'a' ≤ c.toLower ∧ c.toLower ≤ 'f' then some (c.toLower.toNat - 'a'.toNat + 10)
  else none

/-- The number with the given digits in a base. -/
def digitsValue (base : Nat) (ds : List Char) : Nat :=
  ds.foldl (fun n c => base * n + (hexDigit? c).getD 0) 0

/-- An exponent: a sign and digits, after which nothing follows. -/
def exponent? (cs : List Char) : Option Int :=
  let (negative, ds) : Bool × List Char := match cs with
    | '-' :: ds => (true, ds)
    | '+' :: ds => (false, ds)
    | ds => (false, ds)
  if ds.isEmpty || !ds.all Char.isDigit then none
  else some (if negative then -(digitsValue 10 ds : Int) else digitsValue 10 ds)

/-- The number nearest to `± digits · 2 ^ e`, or nothing where it is too large. -/
def ofBinary (negative : Bool) (digits : Nat) (e : Int) : Option Double :=
  if digits = 0 then some (Double.zero negative)
  else
    let size : Int := digits.log2 + e
    if size < -1200 then some (Double.zero negative)
    else if 1200 < size then none
    else if 0 ≤ e then Double.ofRatio negative (digits * Nat.pow 2 e.toNat) 1
    else Double.ofRatio negative digits (Nat.pow 2 (-e).toNat)

/-- The number that an unsigned text says: digits with at most one point and an exponent, which
hexadecimal digits must have. -/
def unsigned? (negative : Bool) (cs : List Char) : Option Double := do
  let hexadecimal := match cs with
    | '0' :: x :: _ :: _ => x == 'x' || x == 'X'
    | _ => false
  let isDigit (c : Char) : Bool := if hexadecimal then (hexDigit? c).isSome else c.isDigit
  let body := if hexadecimal then cs.drop 2 else cs
  if cs.elem '_' ∧ ¬ groupedFrom isDigit (if hexadecimal then some true else none) body then none
  let body := body.filter (· ≠ '_')
  let whole := body.takeWhile isDigit
  let rest := body.drop whole.length
  let (frac, rest) := match rest with
    | '.' :: r => (r.takeWhile isDigit, r.dropWhile isDigit)
    | r => ([], r)
  if whole = [] ∧ frac = [] then none
  let base := if hexadecimal then 16 else 10
  let digits := digitsValue base (whole ++ frac)
  let e ← match rest with
    | [] => if hexadecimal then none else some 0
    | m :: r => if m.toLower = (if hexadecimal then 'p' else 'e') then exponent? r else none
  if hexadecimal then ofBinary negative digits (e - 4 * frac.length)
  else Double.ofDecimal negative digits (e - frac.length)

/-- The number that a text says: infinite, no number, or with digits. A number with digits that is
too large is none. -/
def parse? (cs : List Char) : Option Binary64 :=
  let (negative, body) : Bool × List Char := match cs with
    | '-' :: r => (true, r)
    | '+' :: r => (false, r)
    | r => (false, r)
  let word := String.ofList (body.map Char.toLower)
  if word = "inf" ∨ word = "infinity" then some (.infinite negative)
  else if word = "nan" then some .nan
  else (unsigned? negative body).map .finite

end Binary64

end AuditShell
