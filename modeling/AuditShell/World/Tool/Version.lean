import AuditShell.World.Program
/-!
# Names with versions

An order of names in which runs of digits count as numbers, so that `a9` stands before `a10`. Endings
such as `.tar.gz` are compared only where the names are alike without them.
-/
namespace AuditShell.World.Tool.Version

/-- Whether a byte is a digit. -/
def isDigit (b : UInt8) : Bool := 0x30 ≤ b && b ≤ 0x39

/-- Whether a byte is a letter. -/
def isLetter (b : UInt8) : Bool := (0x41 ≤ b && b ≤ 0x5A) || (0x61 ≤ b && b ≤ 0x7A)

/-- The rank of what stands between numbers: a tilde before the end, the end before numbers, then letters,
then all else. -/
def rank : Option UInt8 → Int
  | none => -1
  | some b =>
    if isDigit b then 0 else if isLetter b then b.toNat else if b = 0x7E then -2 else b.toNat + 256

/-- Compares two numbers that stand at the start of texts, without the zeros before them. -/
def compareNumbers (a b : Bytes) : Ordering :=
  let a := (a.takeWhile isDigit).dropWhile (· = 0x30)
  let b := (b.takeWhile isDigit).dropWhile (· = 0x30)
  (compare a.length b.length).then (if a = b then .eq else if Bytes.le a b then .lt else .gt)

/-- Compares names piece by piece, in turns what is no number and a number. `fuel` bounds the number of
steps. -/
def comparePieces : (fuel : Nat) → Bytes → Bytes → Ordering
  | 0, _, _ => .eq
  | fuel + 1, a, b =>
    if a.isEmpty && b.isEmpty then .eq
    else if a.head?.any (!isDigit ·) || b.head?.any (!isDigit ·) then
      (compare (rank a.head?) (rank b.head?)).then (comparePieces fuel a.tail b.tail)
    else (compareNumbers a b).then (comparePieces fuel (a.dropWhile isDigit) (b.dropWhile isDigit))

/-- The name without its ending: points that are followed by a letter or a tilde, with letters, digits and
tildes after it. `fuel` bounds the number of steps. -/
def stemLength : (fuel : Nat) → (seen best : Nat) → Bytes → Nat
  | 0, _, best, _ => best
  | _ + 1, _, best, [] => best
  | fuel + 1, seen, best, b :: bs =>
    let starts := b = 0x2E && bs.head?.any fun x => isLetter x || x = 0x7E
    if starts && seen ≠ 0 then
      let more := bs.takeWhile fun x => isLetter x || isDigit x || x = 0x7E
      stemLength fuel (seen + 1 + more.length) best (bs.drop more.length)
    else stemLength fuel (seen + 1) (seen + 1) bs

/-- The name without its ending. -/
def stem (b : Bytes) : Bytes := b.take (stemLength (b.length + 1) 0 0 b)

/-- Compares two names. The empty name is the first, then those that start with a point, of which one
point and two points are the first. -/
def compareNames (a b : Bytes) : Ordering :=
  let class' (b : Bytes) : Nat :=
    if b.isEmpty then 0 else if b = text "." then 1 else if b = text ".." then 2 else if b.head? = some 0x2E then 3 else 4
  let fuel := a.length + b.length + 1
  if class' a = class' b then
    (comparePieces fuel (stem a) (stem b)).then (comparePieces fuel a b)
  else compare (class' a) (class' b)

end AuditShell.World.Tool.Version
