import AuditShell.Prompt.Script.Value
import AuditShell.Text.Quoted
/-!
# Comparing and showing the values of a prompt script

Values of one type compare with each other, and so do the two kinds of numbers. Values are looked
into only so deep. A dictionary finds a key by its hash, and only what cannot change has one.
-/
namespace AuditShell.Prompt.Script

/-! ## Order -/

/-- How two values are compared. -/
inductive Comparison where
  | eq
  | ne
  | lt
  | gt
  | le
  | ge
  deriving DecidableEq, Repr

/-- Whether an order is the one that is asked for. -/
def Comparison.holds : Comparison → Ordering → Bool
  | .eq, o => o == .eq
  | .ne, o => o != .eq
  | .lt, o => o == .lt
  | .gt, o => o == .gt
  | .le, o => o != .gt
  | .ge, o => o != .lt

/-- What is said of two values that are only told apart. -/
def Comparison.told (c : Comparison) (same : Bool) : Run Bool :=
  match c with
  | .eq => return same
  | .ne => return !same
  | _ => fail

/-- The order of byte strings from a place on, `left` places before the end of the shorter one. -/
def compareBytesFrom (s t : ByteArray) : (left : Nat) → (i : Nat) → Ordering
  | 0, _ => compare s.size t.size
  | left + 1, i =>
    match compare (byteAt s i) (byteAt t i) with
    | .eq => compareBytesFrom s t left (i + 1)
    | o => o

/-- The order of byte strings. -/
def compareBytes (s t : ByteArray) : Ordering := compareBytesFrom s t (min s.size t.size) 0

/-- How deep values are looked into. -/
def compareLimit : Nat := 10

/-- Whether two values that have no order are the same one. -/
def isSame : Value → Value → Bool
  | .none, .none => true
  | .range r, .range s => r.same s
  | .elems s a, .elems t b => s == t && a == b
  | .codepoints s a, .codepoints t b => s == t && a == b
  | .byteElems s, .byteElems t => s == t
  | .function i _ _ _, .function j _ _ _ => i == j
  | .builtin n, .builtin m => n == m
  | .method i _ _, .method j _ _ => i == j
  | _, _ => false

/-- Whether two values that are not both made of others compare as asked. -/
def compareFlat (c : Comparison) (a b : Value) : Run Bool :=
  match a, b with
  | .bool x, .bool y => return c.holds (compare x.toNat y.toNat)
  | .int x, .int y => return c.holds (compare x y)
  | .float x, .float y => return c.holds (x.order y)
  | .int x, .float y => return c.holds (y.orderInt x)
  | .float x, .int y => return c.holds (x.orderInt y).swap
  | .string x, .string y => return c.holds (compareBytes x y)
  | .bytes x, .bytes y => return c.holds (compareBytes x y)
  | a, b => c.told (isSame a b)

/-- Whether sequences compare as asked, from a place on, where `item` compares their items: that of
the first items that differ, else of the lengths. -/
def compareItems (item : Comparison → Value → Value → Run Bool) (c : Comparison) (x y : Array Value) :
    (left : Nat) → (i : Nat) → Run Bool
  | 0, _ => return c.holds (compare x.size y.size)
  | left + 1, i => do
    let a := x.getD i .none
    let b := y.getD i .none
    if ← item .eq a b then compareItems item c x y left (i + 1)
    else if c = .eq ∨ c = .ne then c.told false
    else item c a b

/-- Whether sequences compare as asked. -/
def compareMany (item : Comparison → Value → Value → Run Bool) (c : Comparison) (x y : Array Value) : Run Bool :=
  if x.size ≠ y.size ∧ (c = .eq ∨ c = .ne) then c.told false
  else compareItems item c x y (min x.size y.size) 0

/-! ## Keys -/

/-- Whether values that cannot change compare as asked. -/
def compareKeys : (depth : Nat) → Comparison → Value → Value → Run Bool
  | 0, _, _, _ => fail
  | depth + 1, c, a, b =>
    match a, b with
    | .tuple x, .tuple y => compareMany (compareKeys depth) c x y
    | a, b => compareFlat c a b

/-- The hash of a value that has one. `fuel` bounds how deep tuples lie in each other. -/
def hashOf : (fuel : Nat) → Value → Option UInt64
  | 0, _ => none
  | fuel + 1, v =>
    match v with
    | .none => some 0
    | .bool b => some (if b then 1 else 0)
    | .int n => some (hash n)
    | .float x => some (((x.truncate?).map hash).getD 1618033)
    | .string s => some (hash s)
    | .bytes s => some (hash s)
    | .tuple items => items.foldlM (fun h w => do return mixHash h (← hashOf fuel w)) 3430008
    | .function _ c _ _ => some (hash c.name)
    | .builtin n => some (hash n)
    | .method _ _ n => some (hash n)
    | _ => none

/-- How deep tuples may lie in each other. -/
def nestingLimit : Nat := 1000000

/-- The first of the entries at the given places in a table whose key equals the given one. -/
def firstMatch (t : Table) (key : Value) : List Nat → Run (Option (Nat × Value))
  | [] => return none
  | i :: is => do
    match (t.entries[i]?).bind id with
    | some (k, v) => if ← compareKeys compareLimit .eq key k then return some (i, v) else firstMatch t key is
    | none => firstMatch t key is

/-- The entry with a key in a table. A key without a hash is an error. -/
def Table.find (t : Table) (key : Value) : Run (Option (Nat × Value)) := do
  let h ← orFail (hashOf nestingLimit key)
  firstMatch t key (t.index.getD h [])

/-- The table with a new entry at its end; the hash is that of the key. -/
def Table.push : Table → UInt64 → Value → Value → Table
  | ⟨entries, index, size⟩, h, key, value =>
    let i := entries.size
    ⟨entries.push (some (key, value)), index.alter h fun places => some (i :: places.getD []), size + 1⟩

/-- The table without the entry at a place; the hash is that of its key. -/
def Table.drop : Table → UInt64 → Nat → Table
  | ⟨entries, index, size⟩, h, i =>
    ⟨entries.setIfInBounds i none, index.alter h fun places => places.map (·.erase i), size - 1⟩

/-- The table with another value for the key at a place. -/
def Table.replace : Table → Nat → Value → Table
  | ⟨entries, index, size⟩, i, value => ⟨entries.modify i (·.map fun (k, _) => (k, value)), index, size⟩

/-- The value of a key in a dictionary. -/
def dictGet (ref : Nat) (key : Value) : Run (Option Value) := do
  return (← (← dictTable ref).find key).map (·.2)

/-- Gives a key a value. A new key comes last. -/
def dictSet (ref : Nat) (key value : Value) : Run Unit := do
  checkDict ref
  match ← (← dictTable ref).find key with
  | some (i, _) => changeDict ref (·.replace i value)
  | none =>
    let h ← orFail (hashOf nestingLimit key)
    changeDict ref (·.push h key value)

/-- Removes a key, and gives its value. -/
def dictRemove (ref : Nat) (key : Value) : Run (Option Value) := do
  checkDict ref
  let t ← dictTable ref
  if t.entries.isEmpty then return none
  match ← t.find key with
  | some (i, v) =>
    let h ← orFail (hashOf nestingLimit key)
    changeDict ref (·.drop h i)
    return some v
  | none => return none

/-! ## All values -/

/-- Whether two values compare as asked. `depth` bounds how deep they are looked into. -/
def compareTo : (depth : Nat) → Comparison → Value → Value → Run Bool
  | 0, _, _, _ => fail
  | depth + 1, c, a, b =>
    match a, b with
    | .tuple x, .tuple y => compareMany (compareTo depth) c x y
    | .list x, .list y => do compareMany (compareTo depth) c (← listItems x) (← listItems y)
    | .dict x, .dict y => do
      let s ← dictTable x
      let t ← dictTable y
      let inOther (e : Value × Value) : Run Bool := do
        match ← t.find e.1 with
        | some (_, w) => compareTo depth .eq e.2 w
        | none => return false
      if c ≠ .eq ∧ c ≠ .ne then fail
      else if s.size ≠ t.size then c.told false
      else c.told (← s.items.allM inOther)
    | a, b => compareFlat c a b

/-- Whether two values compare as asked. -/
def compareValues (c : Comparison) (a b : Value) : Run Bool := compareTo compareLimit c a b

/-- Whether two values are equal. -/
def equal (a b : Value) : Run Bool := compareValues .eq a b

/-! ## Texts -/

/-- The text of a value, put after a text. Strings are in quotes. A value that lies in itself shows as
dots: `path` holds the lists and dictionaries around it. -/
def write (h : Heap) : (fuel : Nat) → (path : List (Bool × Nat)) → Value → ByteArray → ByteArray
  | 0, _, _, out => out
  | fuel + 1, path, v, out =>
    let separated (items : Array Value) (path : List (Bool × Nat)) (out : ByteArray) : ByteArray :=
      (items.foldl (fun (out, first) w =>
        (write h fuel path w (if first then out else out ++ str ", "), false)) (out, true)).1
    match v with
    | .none => out ++ str "None"
    | .bool b => out ++ str (if b then "True" else "False")
    | .int n => out ++ str (toString n)
    | .float x => out ++ str (String.ofList (x.render .short 'e'))
    | .string s => out ++ (quoted s.toList).toByteArray
    | .bytes s => out ++ str "b" ++ (quoted s.toList).toByteArray
    | .tuple items =>
      let out := separated items path (out ++ str "(")
      out ++ str (if items.size = 1 then ",)" else ")")
    | .list ref =>
      let out := out ++ str "["
      let out := if path.contains (false, ref) then out ++ str "..."
        else separated ((h.lists[ref]?.map Cell.content).getD #[]) ((false, ref) :: path) out
      out ++ str "]"
    | .dict ref =>
      let out := out ++ str "\x7b"
      let entries := ((h.dicts[ref]?.map Cell.content).getD {}).items
      let out := if path.contains (true, ref) then out ++ str "..."
        else (entries.foldl (fun (out, first) (k, w) =>
          let out := write h fuel path k (if first then out else out ++ str ", ")
          (write h fuel ((true, ref) :: path) w (out ++ str ": "), false)) (out, true)).1
      out ++ str "\x7d"
    | .range r =>
      let parts := if r.step ≠ 1 then [r.start, r.stop, r.step] else if r.start ≠ 0 then [r.start, r.stop] else [r.stop]
      out ++ str ("range(" ++ String.intercalate ", " (parts.map toString) ++ ")")
    | .elems s numbers => out ++ (quoted s.toList).toByteArray ++ str (if numbers then ".elem_ords()" else ".elems()")
    | .codepoints s numbers =>
      out ++ (quoted s.toList).toByteArray ++ str (if numbers then ".codepoint_ords()" else ".codepoints()")
    | .byteElems s => out ++ str "b" ++ (quoted s.toList).toByteArray ++ str ".elems()"
    | .function _ c _ _ => out ++ str ("<function " ++ c.name ++ ">")
    | .builtin n => out ++ str ("<built-in function " ++ n ++ ">")
    | .method _ r n => out ++ str ("<built-in method " ++ n ++ " of " ++ r.typeName ++ " value>")

/-- The text of a value with strings in quotes. -/
def repr (v : Value) : Run ByteArray := do return write (← get) nestingLimit [] v .empty

/-- The text of a value. -/
def shown (v : Value) : Run ByteArray :=
  match v with
  | .string s => return s
  | v => repr v

end AuditShell.Prompt.Script
