import AuditShell.Number.Double
import AuditShell.World.Program
/-!
# Numbers in arguments

Digits in a base, and numbers with a fraction, which are rounded to 64 binary digits when they are read.
-/
namespace AuditShell.World.Tool

open Program

/-- The value of a digit, if it is one. -/
def digit? (b : UInt8) : Option Nat :=
  if 0x30 ≤ b && b ≤ 0x39 then some (b.toNat - 0x30)
  else if 0x61 ≤ b && b ≤ 0x66 then some (b.toNat - 0x61 + 10)
  else if 0x41 ≤ b && b ≤ 0x46 then some (b.toNat - 0x41 + 10)
  else none

/-- The value of a digit in a base, if it is one. -/
def digitIn? (base : Nat) (b : UInt8) : Option Nat := (digit? b).filter (· < base)

/-- The value of up to `n` digits at the start of a text, and what follows them. -/
def digits (base : Nat) : (n : Nat) → (acc : Nat) → Bytes → Nat × Bytes
  | 0, acc, bs => (acc, bs)
  | n + 1, acc, b :: bs =>
    match digitIn? base b with
    | some d => digits base n (base * acc + d) bs
    | none => (acc, b :: bs)
  | _ + 1, acc, [] => (acc, [])

/-- A number with a fraction. -/
inductive Quantity where
  /-- The number `± num / den`. -/
  | finite (negative : Bool) (num den : Nat)
  | infinite (negative : Bool)
  | undefined (negative : Bool)
  deriving DecidableEq, Repr

/-- The power of a base with an exponent of either sign, as a fraction. -/
def power (base : Nat) (e : Int) : Nat × Nat := (Nat.pow base e.toNat, Nat.pow base (-e).toNat)

/-- A fraction rounded to 64 binary digits. -/
def rounded (num den : Nat) : Nat × Nat :=
  if num = 0 then (0, 1)
  else
    let e : Int := (Nat.log2 num : Int) - Nat.log2 den - 63
    let (up, down) := power 2 e
    let e := if num * down < den * up * Nat.pow 2 63 then e - 1 else e
    let (up, down) := power 2 e
    (Double.roundDiv (num * down) (den * up) * up, down)

/-- The largest power of a base that a number can be; others are zero or infinite. -/
def maxPower (base : Nat) : Int := if base = 2 then 16384 else 4932

/-- The quantity at the start of a text, and what follows it; nothing where there is none. -/
def quantity? (b : Bytes) : Option (Quantity × Bytes) :=
  let b := b.dropWhile fun x => x = 0x20 || (0x09 ≤ x && x ≤ 0x0D)
  let negative := b.head? = some 0x2D
  let b := if negative || b.head? = some 0x2B then b.tail else b
  let lower := b.map fun x => if 0x41 ≤ x && x ≤ 0x5A then x + 0x20 else x
  if (text "infinity").isPrefixOf lower then some (.infinite negative, b.drop 8)
  else if (text "inf").isPrefixOf lower then some (.infinite negative, b.drop 3)
  else if (text "nan").isPrefixOf lower then some (.undefined negative, b.drop 3)
  else
    let hex := (text "0x").isPrefixOf lower && ((b.drop 2).find? (· ≠ 0x2E)).any fun x => (digitIn? 16 x).isSome
    let base := if hex then 16 else 10
    let isDigit (x : UInt8) : Bool := (digitIn? base x).isSome
    let b := if hex then b.drop 2 else b
    let whole := b.takeWhile isDigit
    let after := b.drop whole.length
    let (part, after) := if after.head? = some 0x2E then (after.tail.takeWhile isDigit, after.tail.dropWhile isDigit)
      else ([], after)
    let ds := whole ++ part
    if ds.isEmpty then if hex then some (.finite negative 0 1, b.drop 1) else none
    else
      let mark := (if hex then text "pP" else text "eE")
      let (e, rest) := exponent mark after
      let (n, _) := digits base ds.length 0 ds
      let e := if hex then e - 4 * part.length else e - part.length
      let base := if hex then 2 else 10
      let size : Int := ((if hex then 4 * ds.length else ds.length) : Nat)
      if n = 0 then some (.finite negative 0 1, rest)
      else if maxPower base < e then some (.infinite negative, rest)
      else if e < -maxPower base - size then some (.finite negative 0 1, rest)
      else
        let (up, down) := power base e
        let (num, den) := rounded (n * up) down
        some (.finite negative num den, rest)
where
  /-- The exponent after one of some marks, and what follows it. -/
  exponent (mark after : Bytes) : Int × Bytes :=
    let tail := if after.head?.any mark.elem then after.tail else []
    let signed := tail.head? = some 0x2D || tail.head? = some 0x2B
    let ds := (if signed then tail.tail else tail).takeWhile fun x => (digitIn? 10 x).isSome
    if ds.isEmpty then (0, after)
    else
      let n : Int := ((number? ds).getD 0 : Nat)
      (if tail.head? = some 0x2D then -n else n, after.drop (1 + ds.length + if signed then 1 else 0))

/-- The order of quantities; nothing where one of them is undefined. -/
def Quantity.compare? : Quantity → Quantity → Option Ordering
  | .undefined _, _ | _, .undefined _ => none
  | .infinite a, .infinite b => some (if a = b then .eq else if a then .lt else .gt)
  | .infinite a, .finite .. => some (if a then .lt else .gt)
  | .finite .., .infinite b => some (if b then .gt else .lt)
  | .finite a n d, .finite b m k =>
    let signed (negative : Bool) (n : Nat) : Int := if negative then -(n : Int) else n
    some (compare (signed a (n * k)) (signed b (m * d)))

end AuditShell.World.Tool
