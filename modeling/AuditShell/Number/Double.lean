import AuditShell.Text.Bytes
/-!
# Double-precision numbers

A finite number of the binary64 format as a sign, a mantissa and an exponent, in exact integer
arithmetic. `Double.ofRatio` rounds a fraction to the nearest number, a tie to the even mantissa.
`Double.shortest` gives the fewest decimal digits that round back to the number, the nearest such
where there are several.
-/
namespace AuditShell

/-- The number `± mantissa · 2 ^ exponent`. -/
structure Double where
  negative : Bool
  mantissa : Nat
  exponent : Int
  deriving DecidableEq, Repr

namespace Double

/-- The least exponent, at which the mantissa may be short. -/
def minExponent : Int := -1074

/-- The first number of 54 bits: mantissas lie below it. -/
def mantissaBound : Nat := 0x20000000000000

/-- The greatest exponent. -/
def maxExponent : Int := 971

/-- Positive or negative zero. -/
def zero (negative : Bool) : Double := ⟨negative, 0, minExponent⟩

instance : Inhabited Double := ⟨zero false⟩

/-- The absolute value as a fraction. -/
def ratio (d : Double) : Nat × Nat :=
  if 0 ≤ d.exponent then (d.mantissa * Nat.pow 2 d.exponent.toNat, 1)
  else (d.mantissa, Nat.pow 2 (-d.exponent).toNat)

/-- The quotient rounded to the nearest integer, a half to the even one. -/
def roundDiv (num den : Nat) : Nat :=
  let q := num / den
  let r := num % den
  if 2 * r < den then q
  else if den < 2 * r then q + 1
  else if q % 2 = 0 then q else q + 1

/-- The number with mantissa `num / den` at an exponent, rounded. -/
def mantissaAt (num den : Nat) (e : Int) : Nat :=
  if 0 ≤ e then roundDiv num (den * Nat.pow 2 e.toNat) else roundDiv (num * Nat.pow 2 (-e).toNat) den

/-- The number nearest to a fraction, or nothing where it is too large. -/
def ofRatio (negative : Bool) (num den : Nat) : Option Double :=
  if num = 0 then some (zero negative)
  else
    let guess : Int := (num.log2 : Int) - (den.log2 : Int) - 53
    -- The quotient has at least 53 and at most 54 bits at `guess`.
    let e := if mantissaAt num den guess < mantissaBound then guess else guess + 1
    let e := if mantissaAt num den e < mantissaBound then e else e + 1
    let e := max e minExponent
    let m := mantissaAt num den e
    let (m, e) := if m = mantissaBound then (mantissaBound / 2, e + 1) else (m, e)
    if maxExponent < e then none else some ⟨negative, m, e⟩

/-- The number nearest to a fraction that is not too large. -/
def nearest (num den : Nat) : Double := (ofRatio false num den).getD default

/-- The number nearest to `± digits · 10 ^ e`, or nothing where it is too large. -/
def ofDecimal (negative : Bool) (digits : Nat) (e : Int) : Option Double :=
  if digits = 0 then some (zero negative)
  else
    let size : Int := (Nat.toDigits 10 digits).length + e
    if size < -400 then some (zero negative)
    else if 400 < size then none
    else if 0 ≤ e then ofRatio negative (digits * Nat.pow 10 e.toNat) 1
    else ofRatio negative digits (Nat.pow 10 (-e).toNat)

/-- Decimal digits and a power of ten: `digits · 10 ^ power`. -/
structure Decimal where
  digits : Nat
  power : Int
  deriving DecidableEq, Repr

/-- The power of ten of the leading digit of a positive fraction. -/
def leadingPower (num den : Nat) : Int :=
  let a : Int := (Nat.toDigits 10 num).length
  let b : Int := (Nat.toDigits 10 den).length
  let guess := a - b
  let below : Bool :=
    if 0 ≤ guess then num < den * Nat.pow 10 guess.toNat else num * Nat.pow 10 (-guess).toNat < den
  if below then guess - 1 else guess

/-- The two neighbours of a fraction on the grid of multiples of `10 ^ power`, the nearer one first. -/
def gridNeighbours (num den : Nat) (power : Int) : List Nat :=
  let (n, d) := if 0 ≤ power then (num, den * Nat.pow 10 power.toNat) else (num * Nat.pow 10 (-power).toNat, den)
  let q := n / d
  let r := n % d
  if r = 0 then [q]
  else if 2 * r < d then [q, q + 1]
  else if d < 2 * r then [q + 1, q]
  else if q % 2 = 0 then [q, q + 1] else [q + 1, q]

/-- The first decimal among the neighbours on the grid that rounds back to the number. -/
def hit (d : Double) (power : Int) : Option Decimal :=
  let (num, den) := d.ratio
  (gridNeighbours num den power).findSome? fun q =>
    if ofDecimal false q power = some { d with negative := false } then some ⟨q, power⟩ else none

/-- The fewest digits that round back, tried from one digit to seventeen. -/
def shortest (d : Double) : Decimal :=
  if d.mantissa = 0 then ⟨0, 0⟩
  else
    let (num, den) := d.ratio
    let lead := leadingPower num den
    match (List.range 17).findSome? (fun (i : Nat) => hit d (lead - i)) with
    | some r => r
    | none => ⟨0, 0⟩

end Double

namespace Double.Decimal

/-- The digits without trailing zeros. -/
def trim (fuel : Nat) (d : Decimal) : Decimal :=
  match fuel with
  | 0 => d
  | fuel + 1 => if d.digits ≠ 0 ∧ d.digits % 10 = 0 then trim fuel ⟨d.digits / 10, d.power + 1⟩ else d

end Double.Decimal

namespace Double

/-- The text of a number: positional from a millionth up to 10 ^ 21, else with an exponent. -/
def render (d : Double) : Bytes :=
  let sign := if d.negative then text "-" else []
  if d.mantissa = 0 then sign ++ text "0"
  else
    let s := (shortest d).trim 20
    let ds := Nat.toDigits 10 s.digits
    let count : Int := ds.length
    -- The value lies in `[10 ^ (point - 1), 10 ^ point)`.
    let point := count + s.power
    sign ++ Utf8.encode (
      if point ≤ -6 ∨ 21 < point then
        let e := point - 1
        let mark := if e < 0 then ['e', '-'] else ['e', '+']
        let frac := if ds.length = 1 then [] else '.' :: ds.drop 1
        ds.take 1 ++ frac ++ mark ++ Nat.toDigits 10 e.natAbs
      else if point ≤ 0 then
        '0' :: '.' :: List.replicate (-point).toNat '0' ++ ds
      else if count ≤ point then
        ds ++ List.replicate (point - count).toNat '0'
      else
        ds.take point.toNat ++ '.' :: ds.drop point.toNat)

/-- Microseconds as milliseconds: the count becomes a number first and is then divided. -/
def ofMicros (n : Int) : Double :=
  let whole := (ofRatio (n < 0) n.natAbs 1).getD (zero false)
  let (num, den) := whole.ratio
  (ofRatio whole.negative num (den * 1000)).getD (zero false)

end Double

end AuditShell
