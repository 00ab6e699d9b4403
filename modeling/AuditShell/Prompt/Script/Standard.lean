import AuditShell.Prompt.Script.Collection
/-!
# Functions that every prompt script knows

The functions are given how to call a value, because some of them call a function of the script.
-/
namespace AuditShell.Prompt.Script

/-- How a value is called with positional arguments. -/
abbrev Caller := Value → List Value → Run Value

/-! ## Reading numbers -/

/-- The integer that a text says in a base; base zero stands for the one that the text is marked with.
A mark is allowed where it names the base. -/
def parseInt (base : Nat) (s : Bytes) : Option Int := do
  let (negative, ds) : Bool × List Char := match Utf8.decode s with
    | '-' :: r => (true, r)
    | '+' :: r => (false, r)
    | r => (false, r)
  let marked := match ds with
    | '0' :: c :: _ :: _ =>
      match c.toLower with
      | 'o' => some 8
      | 'x' => some 16
      | 'b' => some 2
      | _ => none
    | _ => none
  let (base, ds) ← match marked with
    | some m => if base = 0 ∨ base = m then some (m, ds.drop 2) else some (base, ds)
    | none =>
      if base = 0 ∧ 1 < ds.length ∧ ds.head? = some '0' then (if ds.all (· = '0') then some (10, ['0']) else none)
      else some (if base = 0 then 10 else base, ds)
  if ds = [] then none
  let digit (c : Char) : Option Nat :=
    let d := if c.isDigit then c.toNat - '0'.toNat else if c.isAlpha then c.toLower.toNat - 'a'.toNat + 10 else 36
    if d < base then some d else none
  let n ← ds.foldlM (fun n c => do return base * n + (← digit c)) 0
  return if negative then -(n : Int) else n

/-- The integer that a value is converted to. -/
def toInt (x : Value) (base : Option Value) : Run Value := do
  match x, base with
  | .string s, none => return .int (← orFail (parseInt 10 s.toList))
  | .string s, some b =>
    let b ← orFail (int32? b)
    if b ≠ 0 ∧ (b < 2 ∨ 36 < b) then fail
    return .int (← orFail (parseInt b.toNat s.toList))
  | .bool b, none => return .int (if b then 1 else 0)
  | x, none => return .int (← orFail (wholeNumber? x))
  | _, some _ => fail

/-- The number of double precision that a value is converted to. -/
def toFloat (x : Value) : Run Value := do
  match x with
  | .bool b => return .float (.ofInt (if b then 1 else 0))
  | .int n => return .float (← orFail (finiteFloat? n))
  | .float x => return .float x
  | .string s => return .float (← orFail (Binary64.parse? (Utf8.decode s.toList)))
  | _ => fail

/-! ## Hashes -/

/-- The hash of a string: its characters are the digits of a number in base 31, of which 32 bits are
kept. -/
def stringHash (s : Bytes) : Int :=
  Int.bmod ((Utf8.decode s).foldl (fun h c => (31 * h + c.toNat) % 0x100000000) 0) 0x100000000

/-- The hash of a byte string: bytes are mixed in and multiplied with a prime. -/
def bytesHash (s : Bytes) : Nat := s.foldl (fun h b => (h ^^^ b.toNat) * 16777619 % 0x100000000) 2166136261

/-! ## Order -/

/-- Puts an item into its place among sorted ones, the last of them first. -/
def insertSorted (less : Value → Value → Run Bool) (x : Value × Value) :
    List (Value × Value) → Run (List (Value × Value))
  | [] => return [x]
  | y :: ys => do
    if ← less x.1 y.1 then return y :: (← insertSorted less x ys) else return x :: y :: ys

/-- Sorts a few items, one after the other. -/
def sortFew (less : Value → Value → Run Bool) (xs : List (Value × Value)) : Run (List (Value × Value)) := do
  return (← xs.foldlM (fun ys x => insertSorted less x ys) []).reverse

/-- Merges sorted items; of equal ones the left come first. -/
def mergeSorted (less : Value → Value → Run Bool) :
    (fuel : Nat) → (sofar xs ys : List (Value × Value)) → Run (List (Value × Value))
  | 0, sofar, xs, ys => return sofar.reverse ++ xs ++ ys
  | _ + 1, sofar, [], ys => return sofar.reverse ++ ys
  | _ + 1, sofar, xs, [] => return sofar.reverse ++ xs
  | fuel + 1, sofar, x :: xs, y :: ys => do
    if ← less y.1 x.1 then mergeSorted less fuel (y :: sofar) (x :: xs) ys
    else mergeSorted less fuel (x :: sofar) xs (y :: ys)

/-- How many items are sorted one after the other. -/
def fewItems : Nat := 20

/-- Sorts items by their keys; equal ones keep their order. `fuel` bounds how often they are halved. -/
def sortItems (less : Value → Value → Run Bool) : (fuel : Nat) → List (Value × Value) → Run (List (Value × Value))
  | 0, xs => sortFew less xs
  | fuel + 1, xs => do
    if xs.length ≤ fewItems then sortFew less xs
    else
      let half := xs.length / 2
      let left ← sortItems less fuel (xs.take half)
      let right ← sortItems less fuel (xs.drop half)
      mergeSorted less xs.length [] left right

/-- The items with the keys that a function gives them; without a function they are their own keys. -/
def withKeys (call : Caller) (key : Option Value) (vs : List Value) : Run (List (Value × Value)) :=
  vs.mapM fun v => do
    match key with
    | some f => return (← call f [v], v)
    | none => return (v, v)

/-- The items in order. -/
def sorted (call : Caller) (v : Value) (key : Option Value) (reverse : Bool) : Run Value := do
  if key.any fun k => !k.isCallable then fail
  whileReading v do
    let keyed ← withKeys call key (← items v).toList
    let less (a b : Value) : Run Bool := if reverse then compareValues .lt b a else compareValues .lt a b
    newList ((← sortItems less 64 keyed).map (·.2)).toArray

/-- The first item whose key comes before, or after, those of all others. -/
def extreme (call : Caller) (c : Comparison) (args : List Value) (key : Option Value) : Run Value := do
  if key.any fun k => !k.isCallable then fail
  let v := match args with
    | [v] => v
    | vs => .tuple vs.toArray
  whileReading v do
    match ← withKey? (← items v).toList with
    | none => fail
    | some (first, rest) =>
      let best ← rest.foldlM (fun best v => do
        let k ← keyOf v
        if ← compareValues c k best.1 then return (k, v) else return best) first
      return best.2
where
  /-- The key of an item. -/
  keyOf (v : Value) : Run Value :=
    match key with
    | some f => call f [v]
    | none => return v
  /-- The first item with its key, and the others. -/
  withKey? : List Value → Run (Option ((Value × Value) × List Value))
    | [] => return none
    | v :: vs => do return some ((← keyOf v, v), vs)

/-! ## Arguments -/

/-- An argument that may only be passed by name, and no other. -/
def onlyNamed (n : Name) : Named → Run (Option Value)
  | [] => return none
  | [(k, v)] => if k == str n then return some v else fail
  | _ => fail

/-- The arguments for parameters, positional or by name; those for which none is passed are missing. -/
def placeArguments (params : List Name) (args : List Value) (named : Named) : Run (List (Option Value)) := do
  if params.length < args.length then fail
  let positional := args.map some ++ List.replicate (params.length - args.length) none
  named.foldlM (fun placed (k, v) => do
    match params.findIdx? fun p => str p == k with
    | some i => if (placed[i]?.bind id).isSome then fail else return placed.set i (some v)
    | none => fail) positional

/-- Values in a row, as they are printed. -/
def row (sep : ByteArray) : (first : Bool) → List Value → ByteArray → Run ByteArray
  | _, [], out => return out
  | first, v :: vs, out => do
    let s ← match v with
      | .bytes s => pure s
      | v => shown v
    row sep false vs ((if first then out else out ++ sep) ++ s)

/-- Whether one of the items of a value counts as what is looked for. -/
def anyTruth (wanted : Bool) : List Value → Run Bool
  | [] => return false
  | v :: vs => do if (← truth v) == wanted then return true else anyTruth wanted vs

/-- Items of several values in rows, as many as the shortest has. -/
def zipped (vs : List Value) : Run Value := do
  let ss ← vs.mapM fun v => do orFail (← sequence? v)
  let count := ((ss.map Sequence.length).min?).getD 0
  newList (Array.ofFn fun (i : Fin count) => .tuple ((ss.map fun s => s.item i).toArray))

/-- The bytes that a value is converted to. -/
def toBytes (v : Value) : Run Value := do
  match v with
  | .bytes s => return .bytes s
  | .string s => return .bytes (Utf8.repair s.toList).toByteArray
  | v =>
    let bs ← (← items v).mapM fun x => match x with
      | .int n => if 0 ≤ n ∧ n < 256 then pure n.toNat.toUInt8 else fail
      | _ => fail
    return .bytes ⟨bs⟩

/-- The number of the only character or byte of a text. -/
def ordinal (v : Value) : Run Value := do
  match v with
  | .string s =>
    match Utf8.decode s.toList with
    | [c] => return .int c.toNat
    | _ => fail
  | .bytes s => if s.size = 1 then return .int (byteAt s 0).toNat else fail
  | _ => fail

/-- A range with bounds and a step of 64 bits. -/
def rangeOf (start stop step : Value) : Run Value := do
  let step ← orFail (int64? step)
  if step = 0 then fail
  return .range (.between (← orFail (int64? start)) (← orFail (int64? stop)) step)

/-! ## Functions -/

/-- Calls a function that takes no arguments by name. -/
def callPositional (n : Name) (args : List Value) : Run Value := do
  match n, args with
  | "abs", [.int n] => return .int n.natAbs
  | "abs", [.float x] => return .float x.abs
  | "all", [v] => return .bool !(← anyTruth false (← items v).toList)
  | "any", [v] => .bool <$> do anyTruth true (← items v).toList
  | "bool", [] => return .bool false
  | "bool", [v] => .bool <$> truth v
  | "bytes", [v] => toBytes v
  | "chr", [.int n] => return .string (Utf8.encodeChar (← orFail (character? n))).toByteArray
  | "dir", [v] => newList ((methodNames v).map fun m => Value.string (str m)).toArray
  | "enumerate", v :: rest =>
    let start ← match rest with
      | [] => pure 0
      | [i] => orFail (int64? i)
      | _ => fail
    newList ((← items v).mapIdx fun i x => .tuple #[.int (start + i), x])
  | "float", [] => return .float default
  | "float", [v] => toFloat v
  | "getattr", [v, .string n] => orFail (← attribute? v (Bytes.toString n.toList))
  | "getattr", [v, .string n, d] => return (← attribute? v (Bytes.toString n.toList)).getD d
  | "hasattr", [v, .string n] => return .bool ((methodNames v).contains (Bytes.toString n.toList))
  | "hash", [.string s] => return .int (stringHash s.toList)
  | "hash", [.bytes s] => return .int (bytesHash s.toList)
  | "len", [v] => return .int (← orFail (← length? v))
  | "list", [] => newList #[]
  | "list", [v] => do newList (← items v)
  | "ord", [v] => ordinal v
  | "range", [stop] => rangeOf (.int 0) stop (.int 1)
  | "range", [start, stop] => rangeOf start stop (.int 1)
  | "range", [start, stop, step] => rangeOf start stop step
  | "repr", [v] => .string <$> repr v
  | "reversed", [v] => do newList (← items v).reverse
  | "str", [.bytes s] => return .string (Utf8.repair s.toList).toByteArray
  | "str", [v] => .string <$> shown v
  | "tuple", [] => return .tuple #[]
  | "tuple", [v] => return .tuple (← items v)
  | "type", [v] => return .string (str v.typeName)
  | "zip", vs => zipped vs
  | _, _ => fail

/-- Calls a function that every script knows. -/
def callStandard (call : Caller) (n : Name) (args : List Value) (named : Named) : Run Value := do
  match n with
  | "dict" =>
    let d ← newDict {}
    match d with
    | .dict ref => updateDict ref args named; return d
    | _ => fail
  | "fail" => fail
  | "int" =>
    match ← placeArguments ["x", "base"] args named with
    | [some x, base] => toInt x base
    | _ => fail
  | "max" => if args.isEmpty then fail else extreme call .gt args (← onlyNamed "key" named)
  | "min" => if args.isEmpty then fail else extreme call .lt args (← onlyNamed "key" named)
  | "print" =>
    let sep ← match ← onlyNamed "sep" named with
      | none => pure (str " ")
      | some (.string s) => pure s
      | some _ => fail
    let line ← row sep true args .empty
    modify fun h => { h with printed := h.printed ++ line.push 0x0A }
    return .none
  | "sorted" =>
    match ← placeArguments ["iterable", "key", "reverse"] args named with
    | [some v, key, none] => sorted call v key false
    | [some v, key, some (.bool reverse)] => sorted call v key reverse
    | _ => fail
  | n => if named.isEmpty then callPositional n args else fail

end AuditShell.Prompt.Script
