import AuditShell.Prompt.Script.Compare
/-!
# Operators of a prompt script

What the operators, indices and slices make of values. An operator that does not apply to its
operands is an error.
-/
namespace AuditShell.Prompt.Script

/-! ## Numbers -/

/-- The integer nearest to a number toward zero. -/
def wholeNumber? : Value → Option Int
  | .int n => some n
  | .float x => x.truncate?
  | _ => none

/-- An integer as a number of double precision, which must not be too large. -/
def finiteFloat? (n : Int) : Option Binary64 :=
  match Binary64.ofInt n with
  | .finite d => some (.finite d)
  | _ => none

/-- The value of a number of double precision. -/
def number? : Value → Option Binary64
  | .int n => finiteFloat? n
  | .float x => some x
  | _ => none

/-- Bit operations on integers, which have as many bits as are needed: the bits of a negative number
are those of the number below its opposite, turned around. -/
def bitwise (op : Bool → Bool → Bool) (a b : Int) : Int :=
  let magnitude (n : Int) : Nat := if n < 0 then (-n - 1).toNat else n.toNat
  let flip := op (a < 0) (b < 0)
  let bit (x y : Bool) : Bool := op (x != decide (a < 0)) (y != decide (b < 0)) != flip
  let n := Nat.bitwise bit (magnitude a) (magnitude b)
  if flip then -(n : Int) - 1 else n

/-! ## Repetition -/

/-- A repetition stays below this many elements. -/
def repeatLimit : Nat := 0x40000000

/-- How often something of a length is repeated. -/
def repetitions (length : Nat) (n : Int) : Option Nat :=
  if length = 0 then some 0
  else
    match fitting 32 n with
    | none => none
    | some n => if length * n.toNat < repeatLimit then some n.toNat else none

/-- A byte string followed by another, some times. -/
def repeatBytes (s : ByteArray) : (times : Nat) → (sofar : ByteArray) → ByteArray
  | 0, sofar => sofar
  | n + 1, sofar => repeatBytes s n (sofar ++ s)

/-- Items followed by others, some times. -/
def repeatItems (items : Array Value) : (times : Nat) → (sofar : Array Value) → Array Value
  | 0, sofar => sofar
  | n + 1, sofar => repeatItems items n (sofar ++ items)

/-- A value repeated. -/
def repeated (v : Value) (n : Int) : Run Value := do
  match v with
  | .string s => return .string (repeatBytes s (← orFail (repetitions s.size n)) .empty)
  | .bytes s => return .bytes (repeatBytes s (← orFail (repetitions s.size n)) .empty)
  | .tuple items => return .tuple (repeatItems items (← orFail (repetitions items.size n)) #[])
  | .list ref => do
    let items ← listItems ref
    newList (repeatItems items (← orFail (repetitions items.size n)) #[])
  | _ => fail

/-! ## Membership -/

/-- Whether a byte string lies in another. -/
def containsBytes (s needle : ByteArray) : Bool :=
  needle.size ≤ s.size && Bytes.contains needle.toList s.toList

/-- Whether one of some values equals another. -/
def anyEqual (x : Value) : List Value → Run Bool
  | [] => return false
  | v :: vs => do if ← equal v x then return true else anyEqual x vs

/-- Whether a value lies in another. A key that cannot be in a dictionary is not in it. -/
def isIn (x v : Value) : Run Bool :=
  match v, x with
  | .list ref, x => do anyEqual x (← listItems ref).toList
  | .tuple items, x => anyEqual x items.toList
  | .dict ref, x => tryCatch (do return (← dictGet ref x).isSome) fun _ => return false
  | .string s, .string t => return containsBytes s t
  | .bytes s, .bytes t => return containsBytes s t
  | .bytes s, .int n => if 0 ≤ n ∧ n < 256 then return s.toList.elem n.toNat.toUInt8 else fail
  | .range r, x => do return r.has (← orFail (wholeNumber? x))
  | _, _ => fail

/-! ## Indices -/

/-- The place that an index names in a sequence of a length; a negative one counts from the end. -/
def place? (length : Nat) (i : Value) : Option Nat := do
  let i ← int32? i
  let j := if i < 0 then i + length else i
  if 0 ≤ j ∧ j < length then some j.toNat else none

/-- The item at an index, or the value of a key. -/
def indexValue (v i : Value) : Run Value := do
  match v with
  | .dict ref => orFail (← dictGet ref i)
  | .list ref =>
    let items ← listItems ref
    return items.getD (← orFail (place? items.size i)) .none
  | .tuple items => return items.getD (← orFail (place? items.size i)) .none
  | .string s => return .string [byteAt s (← orFail (place? s.size i))].toByteArray
  | .bytes s => return .bytes [byteAt s (← orFail (place? s.size i))].toByteArray
  | .range r => return .int (r.item (← orFail (place? r.length i)))
  | .elems s false => return .string [byteAt s (← orFail (place? s.size i))].toByteArray
  | .elems s true => return .int (byteAt s (← orFail (place? s.size i))).toNat
  | _ => fail

/-- Puts a value at an index or under a key. -/
def setIndex (v i x : Value) : Run Unit := do
  match v with
  | .dict ref => dictSet ref i x
  | .list ref =>
    let j ← orFail (place? (← listItems ref).size i)
    changeList ref (·.setIfInBounds j x)
  | _ => fail

/-- A bound of a slice of a sequence; a negative one counts from the end. -/
def bound (length : Nat) (absent : Int) : Value → Option Int
  | .none => some absent
  | v => (int32? v).map fun i => if i < 0 then i + length else i

/-- The part of a sequence between two bounds: its start and its end. -/
def bounds (length : Nat) (lo hi : Value) : Option (Nat × Nat) := do
  let clamp (i : Int) : Nat := min length i.toNat
  return (clamp (← bound length 0 lo), clamp (← bound length length hi))

/-- The places of a slice: the first, the end and the step. -/
def sliceBounds (length : Nat) (lo hi step : Value) : Option (Int × Int × Int) := do
  let step ← match step with
    | .none => some 1
    | v => int32? v
  if step = 0 then none
  else if 0 < step then
    let (a, b) ← bounds length lo hi
    return (a, max a b, step)
  else
    let a := min (← bound length (length - 1) lo) (length - 1)
    let b := max (← bound length (-1) hi) (-1)
    return (max a b, b, step)

/-- The items between the bounds of a slice. -/
def pick {α : Type} (get : Nat → α) (s : Int × Int × Int) : Array α :=
  let r := Range.between s.1 s.2.1 s.2.2
  Array.ofFn fun (i : Fin r.length) => get (r.item i).toNat

/-- The bytes between the bounds of a slice. -/
def pickBytes (s : ByteArray) (b : Int × Int × Int) : ByteArray :=
  if b.2.2 = 1 then s.extract b.1.toNat b.2.1.toNat else ⟨pick (byteAt s) b⟩

/-- The part of a value between two bounds. -/
def sliceValue (v lo hi step : Value) : Run Value := do
  let cut (length : Nat) : Run (Int × Int × Int) := orFail (sliceBounds length lo hi step)
  match v with
  | .string s => return .string (pickBytes s (← cut s.size))
  | .bytes s => return .bytes (pickBytes s (← cut s.size))
  | .tuple items => return .tuple (pick (items.getD · .none) (← cut items.size))
  | .list ref =>
    let items ← listItems ref
    newList (pick (items.getD · .none) (← cut items.size))
  | .range r =>
    let (a, b, step) ← cut r.length
    return .range (.between (r.start + r.step * a) (r.start + r.step * b) (r.step * step))
  | _ => fail

/-! ## Operators -/

/-- The sum of two values, or one after the other. -/
def addValues (a b : Value) : Run Value :=
  match a, b with
  | .int x, .int y => return .int (x + y)
  | .string x, .string y => return .string (x ++ y)
  | .bytes x, .bytes y => return .bytes (x ++ y)
  | .tuple x, .tuple y => return .tuple (x ++ y)
  | .list x, .list y => do newList ((← listItems x) ++ (← listItems y))
  | a, b => do return .float ((← orFail (number? a)).add (← orFail (number? b)))

/-- The product of two values, or one repeated. -/
def mulValues (a b : Value) : Run Value :=
  match a, b with
  | .int x, .int y => return .int (x * y)
  | .int _, .float _ => floats
  | .float _, .int _ => floats
  | .float _, .float _ => floats
  | .int n, v => repeated v n
  | v, .int n => repeated v n
  | _, _ => fail
where
  /-- The product of two numbers. -/
  floats : Run Value := do return .float ((← orFail (number? a)).mul (← orFail (number? b)))

/-- A division of two numbers, of which the second is not zero. -/
def divide (f : Binary64 → Binary64 → Binary64) (a b : Value) : Run Value := do
  let x ← orFail (number? a)
  let y ← orFail (number? b)
  if y.isZero then fail else return .float (f x y)

/-- Whether a value is an integer of a shift, and how far it shifts. -/
def shiftCount (v : Value) : Run Nat := do
  let n ← orFail (int32? v)
  if n < 0 then fail else return n.toNat

/-- A shift to the left goes less far than this. -/
def shiftLimit : Nat := 512

/-- The entries of two dictionaries in a new one. -/
def union (x y : Nat) : Run Value := do
  let r ← newDict (← dictTable x)
  match r with
  | .dict ref => (← dictTable y).items.forM fun (k, v) => dictSet ref k v
  | _ => fail
  return r

/-- An operator on two values, apart from `and`, `or` and the formatting of texts. -/
def binaryValue (op : BinaryOp) (a b : Value) : Run Value :=
  let compared (c : Comparison) : Run Value := .bool <$> compareValues c a b
  match op, a, b with
  | .eq, _, _ => compared .eq
  | .ne, _, _ => compared .ne
  | .lt, _, _ => compared .lt
  | .gt, _, _ => compared .gt
  | .le, _, _ => compared .le
  | .ge, _, _ => compared .ge
  | .isIn, _, _ => .bool <$> isIn a b
  | .notIn, _, _ => do return .bool !(← isIn a b)
  | .bitOr, .int x, .int y => return .int (bitwise (· || ·) x y)
  | .bitOr, .dict x, .dict y => union x y
  | .bitXor, .int x, .int y => return .int (bitwise (· != ·) x y)
  | .bitAnd, .int x, .int y => return .int (bitwise (· && ·) x y)
  | .shiftLeft, .int x, _ => do
    let n ← shiftCount b
    if shiftLimit ≤ n then fail else return .int (x * (Nat.pow 2 n : Nat))
  | .shiftRight, .int x, _ => do
    let n ← shiftCount b
    return .int (x.shiftRight n)
  | .add, _, _ => addValues a b
  | .sub, .int x, .int y => return .int (x - y)
  | .sub, _, _ => do return .float ((← orFail (number? a)).sub (← orFail (number? b)))
  | .mul, _, _ => mulValues a b
  | .div, _, _ => divide Binary64.div a b
  | .floorDiv, .int x, .int y => if y = 0 then fail else return .int (Int.fdiv x y)
  | .floorDiv, _, _ => divide (fun x y => (x.div y).floor) a b
  | .mod, .int x, .int y => if y = 0 then fail else return .int (Int.fmod x y)
  | .mod, _, _ => divide Binary64.mod a b
  | _, _, _ => fail

/-- An operator on one value. -/
def unaryValue (op : UnaryOp) (a : Value) : Run Value :=
  match op, a with
  | .not, v => do return .bool !(← truth v)
  | .minus, .int n => return .int (-n)
  | .minus, .float x => return .float x.neg
  | .plus, .int n => return .int n
  | .plus, .float x => return .float x
  | .complement, .int n => return .int (-n - 1)
  | _, _ => fail

/-- Puts items at the end of a list. -/
def extend (ref : Nat) (v : Value) : Run Unit := do
  checkList ref
  let new ← items v
  changeList ref (· ++ new)

/-- Changes a value by an operator. A list takes the items of whatever can be gone through, and a
dictionary the entries of another. -/
def augmentValue (op : BinaryOp) (a b : Value) : Run Value := do
  match op, a, b with
  | .add, .list ref, b =>
    match ← sequence? b with
    | some _ => extend ref b; return a
    | none => addValues a b
  | .bitOr, .dict x, .dict y =>
    checkDict x
    (← dictTable y).items.forM fun (k, v) => dictSet x k v
    return a
  | _, _, _ => binaryValue op a b

end AuditShell.Prompt.Script
