/-!
# Words of 64 bits

The bounds of integers that a word holds, with and without a sign.
-/
namespace AuditShell.Word

/-- The number of words. -/
def count : Nat := 0x10000000000000000

/-- The first number that is too large for a word with a sign. -/
def half : Nat := 0x8000000000000000

/-- The least integer that a word with a sign holds. -/
def least : Int := -(half : Int)

/-- Whether a word with a sign holds the integer. -/
def holds (n : Int) : Bool := least ≤ n && n < half

end AuditShell.Word
