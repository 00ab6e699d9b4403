/-!
# Runs of characters

A set of characters given by the runs that it consists of. The bounds of the runs come in increasing
order, the first character of each run and then the first one after it: a character lies in a run
when an odd number of the bounds do not exceed it.
-/
namespace AuditShell.Run

/-- Whether a number lies in a run: an odd number of bounds do not exceed it. -/
def holds : List Nat → Nat → Bool
  | [], _ => false
  | b :: bs, n => if n < b then false else !holds bs n

/-- Every `step`th character from `first` to `last`, `step` being one or two. -/
structure Stride where
  first : Nat
  last : Nat
  step : Nat
  deriving DecidableEq, Repr

/-- Whether a number is one of those of a stride. -/
def Stride.has (s : Stride) (n : Nat) : Bool := s.first ≤ n && n ≤ s.last && (n - s.first) % s.step == 0

end AuditShell.Run
