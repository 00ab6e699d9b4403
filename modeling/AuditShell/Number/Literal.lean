import AuditShell.Number.Word
import AuditShell.Text.Quoted
/-!
# Integer literals

Integers of 64 bits with a sign, a base that is told by how they start, and underscores between
their digits.
-/
namespace AuditShell.Literal

/-- Why a text is no integer. -/
inductive Fault where
  | malformed
  | outOfRange
  deriving DecidableEq, Repr

/-- The words for a fault. -/
def Fault.words : Fault → Bytes
  | .malformed => text "invalid syntax"
  | .outOfRange => text "value out of range"

/-- A sign, which says whether the number is negative, and what follows it. -/
def splitSign : List Char → Option Bool × List Char
  | '-' :: cs => (some true, cs)
  | '+' :: cs => (some false, cs)
  | cs => (none, cs)

/-- The base of a number and its digits: `0x`, `0o` and `0b` before at least one more character, and
a leading zero for octal. -/
def splitBase : List Char → Nat × List Char
  | '0' :: c :: d :: cs =>
    if c = 'x' ∨ c = 'X' then (16, d :: cs)
    else if c = 'o' ∨ c = 'O' then (8, d :: cs)
    else if c = 'b' ∨ c = 'B' then (2, d :: cs)
    else (8, c :: d :: cs)
  | '0' :: cs => (8, cs)
  | cs => (10, cs)

/-- The value of a letter or decimal digit as a digit. -/
def digit? (c : Char) : Option Nat :=
  if c.isDigit then some (c.toNat - '0'.toNat)
  else if c.isAlpha then some (c.toLower.toNat - 'a'.toNat + 10)
  else none

/-- The number with the given digits in a base, read from the left. Underscores are passed over. -/
def magnitude (base : Nat) : (sofar : Nat) → List Char → Except Fault Nat
  | n, [] => .ok n
  | n, '_' :: cs => magnitude base n cs
  | n, c :: cs =>
    match digit? c with
    | none => .error .malformed
    | some d =>
      if base ≤ d then .error .malformed
      else if Word.count ≤ n * base + d then .error .outOfRange
      else magnitude base (n * base + d) cs

/-- Whether each underscore stands between two digits. `digit` says that a digit stands before. -/
def groupedFrom (hex : Bool) : (digit : Bool) → List Char → Bool
  | _, [] => true
  | digit, '_' :: cs => digit && (cs.head?.any fun c => c.isDigit || (hex && (digit? c).any (· < 16)))
      && groupedFrom hex false cs
  | _, c :: cs => groupedFrom hex (c.isDigit || (hex && (digit? c).any (· < 16))) cs

/-- Whether the underscores of a number stand where they may. A mark of the base counts as a digit. -/
def isGrouped : List Char → Bool
  | '0' :: c :: cs =>
    if ['x', 'X', 'o', 'O', 'b', 'B'].elem c then groupedFrom (c = 'x' || c = 'X') true cs
    else groupedFrom false true (c :: cs)
  | cs => groupedFrom false false cs

/-- The integer that a text says. -/
def parse (cs : List Char) : Except Fault Int := do
  let (sign, ds) := splitSign cs
  if ds = [] then throw .malformed
  let (base, digits) := splitBase ds
  let n ← magnitude base 0 digits
  if ds.elem '_' ∧ ¬ isGrouped ds then throw .malformed
  let v : Int := if sign = some true then -n else n
  if Word.holds v then return v else throw .outOfRange

end AuditShell.Literal
