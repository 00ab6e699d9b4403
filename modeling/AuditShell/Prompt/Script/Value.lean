import AuditShell.Prompt.Script.Resolve
import Std.Data.HashMap
/-!
# Values of a prompt script

What expressions evaluate to. Lists and dictionaries can change, so they live on a heap and a value
only refers to them; so do the variables of a running function, which functions written inside it can
see. What a script has built when it is loaded can no longer change, and nothing can change while a
loop goes through it. All errors are alike: they end the run.
-/
namespace AuditShell.Prompt.Script

/-- What a function does when it is called. -/
inductive Body where
  | value (e : Expr Place)
  | block (ss : List (Stmt Place))

/-- A function as it is written. -/
structure Code where
  id : Nat
  name : Name
  /-- The number of its variables. -/
  size : Nat
  params : List (ParamKind × Name)
  body : Body

/-- The integers from `start` on, `length` of them, each `step` after the one before. `stop` is the
bound that it was asked for. -/
structure Range where
  start : Int
  stop : Int
  step : Int
  length : Nat
  deriving DecidableEq, Repr

/-- A value. -/
inductive Value where
  | none
  | bool (b : Bool)
  | int (n : Int)
  | float (x : Binary64)
  | string (s : ByteArray)
  | bytes (s : ByteArray)
  | tuple (items : Array Value)
  | list (ref : Nat)
  | dict (ref : Nat)
  | range (r : Range)
  /-- The bytes of a string one by one, as strings or as numbers. -/
  | elems (s : ByteArray) (numbers : Bool)
  /-- The characters of a string one by one, as strings or as numbers. -/
  | codepoints (s : ByteArray) (numbers : Bool)
  /-- The numbers of the bytes of a byte string one by one. -/
  | byteElems (s : ByteArray)
  /-- A function of the script. `serial` tells apart functions that are written at one place, and
  `frames` are the frames of the functions around it. -/
  | function (serial : Nat) (code : Code) (defaults : List (Option Value)) (frames : List Nat)
  | builtin (n : Name)
  /-- A method with its receiver. Two of them are never equal. -/
  | method (serial : Nat) (receiver : Value) (n : Name)

instance : Inhabited Value := ⟨.none⟩

/-- Arguments passed by name. -/
abbrev Named := List (ByteArray × Value)

/-- The bytes of a literal. -/
def str (s : String) : ByteArray := (text s).toByteArray

/-- The entries of a dictionary in the order in which they came; removed ones leave a gap. `index`
holds the places of the entries by the hashes of their keys. -/
structure Table where
  entries : Array (Option (Value × Value)) := #[]
  index : Std.HashMap UInt64 (List Nat) := {}
  size : Nat := 0

/-- The entries that are there. -/
def Table.items (t : Table) : Array (Value × Value) := t.entries.filterMap id

/-- Something that can change, with the number of loops that go through it. -/
structure Cell (α : Type) where
  content : α
  readers : Nat := 0

/-- The state of a run. -/
structure Heap where
  lists : Array (Cell (Array Value)) := #[]
  dicts : Array (Cell Table) := #[]
  frames : Array (Array (Option Value)) := #[]
  globals : Array (Option Value) := #[]
  /-- The number of the next function or method. -/
  serial : Nat := 0
  /-- The lists and dictionaries before these can no longer change. -/
  frozenLists : Nat := 0
  frozenDicts : Nat := 0
  /-- The names that the shell adds, with their values. -/
  given : List (Name × Value) := []
  /-- What was printed. -/
  printed : ByteArray := .empty

/-- A part of a run. What was done before an error stays done. -/
abbrev Run := EStateM Unit Heap

namespace Value

/-- How the type of a value is called. -/
def typeName : Value → String
  | .none => "NoneType"
  | .bool _ => "bool"
  | .int _ => "int"
  | .float _ => "float"
  | .string _ => "string"
  | .bytes _ => "bytes"
  | .tuple _ => "tuple"
  | .list _ => "list"
  | .dict _ => "dict"
  | .range _ => "range"
  | .elems _ _ => "string.elems"
  | .codepoints _ _ => "string.codepoints"
  | .byteElems _ => "bytes.elems"
  | .function _ _ _ _ => "function"
  | .builtin _ => "builtin_function_or_method"
  | .method _ _ _ => "builtin_function_or_method"

/-- Whether a value can be called. -/
def isCallable : Value → Bool
  | .function _ _ _ _ => true
  | .builtin _ => true
  | .method _ _ _ => true
  | _ => false

end Value

/-! ## Numbers -/

/-- The integer that fits into a number of bits, with a sign. -/
def fitting (bits : Nat) (n : Int) : Option Int :=
  let half : Int := Nat.pow 2 (bits - 1)
  if -half ≤ n ∧ n < half then some n else none

/-- An integer of 32 bits. -/
def int32? : Value → Option Int
  | .int n => fitting 32 n
  | _ => Option.none

/-- An integer of 64 bits. -/
def int64? : Value → Option Int
  | .int n => fitting 64 n
  | _ => Option.none

/-- The number of integers from `start` up to or down to `stop`, in 64 bits. -/
def rangeLength (start stop step : Int) : Nat :=
  let wrap (n : Int) : Int := Int.bmod n 0x10000000000000000
  if 0 < step then (if start < stop then (Int.tdiv (wrap (stop - 1 - start)) step + 1).toNat else 0)
  else (if stop < start then (Int.tdiv (wrap (start - 1 - stop)) (-step) + 1).toNat else 0)

namespace Range

/-- The range between two bounds. -/
def between (start stop step : Int) : Range := ⟨start, stop, step, rangeLength start stop step⟩

/-- The integer at a place. -/
def item (r : Range) (i : Nat) : Int := r.start + i * r.step

/-- Whether an integer of 32 bits is in the range. -/
def has (r : Range) (n : Int) : Bool :=
  let delta := n - r.start
  (fitting 32 n).isSome && Int.tmod delta r.step == 0 &&
    0 ≤ Int.tdiv delta r.step && Int.tdiv delta r.step < r.length

/-- Whether two ranges hold the same integers. -/
def same (r s : Range) : Bool :=
  r.length == s.length && (r.length == 0 || (r.start == s.start && (r.length == 1 || r.step == s.step)))

end Range

/-! ## The heap -/

/-- Ends the run with an error. -/
def fail {α : Type} : Run α := throw ()

/-- What there is, or an error. -/
def orFail {α : Type} : Option α → Run α
  | some a => return a
  | none => fail

/-- The items of a list. -/
def listItems (ref : Nat) : Run (Array Value) := do return ((← get).lists[ref]?.map Cell.content).getD #[]

/-- The table of a dictionary. -/
def dictTable (ref : Nat) : Run Table := do return ((← get).dicts[ref]?.map Cell.content).getD {}

/-- A new list. -/
def newList (items : Array Value) : Run Value :=
  modifyGet fun h => (.list h.lists.size, { h with lists := h.lists.push ⟨items, 0⟩ })

/-- A new dictionary. -/
def newDict (t : Table) : Run Value :=
  modifyGet fun h => (.dict h.dicts.size, { h with dicts := h.dicts.push ⟨t, 0⟩ })

/-- A new frame. -/
def newFrame (slots : Array (Option Value)) : Run Nat :=
  modifyGet fun h => (h.frames.size, { h with frames := h.frames.push slots })

/-- The number of a new function or method. -/
def newSerial : Run Nat := modifyGet fun h => (h.serial, { h with serial := h.serial + 1 })

/-- Refuses to change a list that is frozen or being gone through. -/
def checkList (ref : Nat) : Run Unit := do
  let h ← get
  if ref < h.frozenLists || 0 < (h.lists[ref]?.map Cell.readers).getD 0 then fail

/-- Refuses to change a dictionary that is frozen or being gone through. -/
def checkDict (ref : Nat) : Run Unit := do
  let h ← get
  if ref < h.frozenDicts || 0 < (h.dicts[ref]?.map Cell.readers).getD 0 then fail

/-- Changes the items of a list that may change. -/
def changeList (ref : Nat) (f : Array Value → Array Value) : Run Unit := do
  checkList ref
  modify fun h => { h with lists := h.lists.modify ref fun c => { c with content := f c.content } }

/-- Changes the table of a dictionary. -/
def changeDict (ref : Nat) (f : Table → Table) : Run Unit :=
  modify fun h => { h with dicts := h.dicts.modify ref fun c => { c with content := f c.content } }

/-- Counts a loop that starts or ends going through a value. -/
def countReader (v : Value) (f : Nat → Nat) : Run Unit :=
  match v with
  | .list ref => modify fun h => { h with lists := h.lists.modify ref fun c => { c with readers := f c.readers } }
  | .dict ref => modify fun h => { h with dicts := h.dicts.modify ref fun c => { c with readers := f c.readers } }
  | _ => return ()

/-- Does something while a value cannot change. -/
def whileReading {α : Type} (v : Value) (run : Run α) : Run α := do
  countReader v (· + 1)
  let r ← run
  countReader v (· - 1)
  return r

/-! ## Sequences -/

/-- The items of a value by their places. -/
structure Sequence where
  length : Nat
  item : Nat → Value

/-- A sequence of known items. -/
def Sequence.ofArray (items : Array Value) : Sequence := ⟨items.size, fun i => items.getD i .none⟩

/-- The items of a sequence. -/
def Sequence.toArray (s : Sequence) : Array Value := Array.ofFn fun (i : Fin s.length) => s.item i

/-- The byte of a byte string at a place. -/
def byteAt (s : ByteArray) (i : Nat) : UInt8 := if h : i < s.size then s[i] else 0

/-- The characters of a string as values. -/
def characters (s : ByteArray) (numbers : Bool) : Array Value :=
  ((Utf8.decode s.toList).map fun c =>
    if numbers then Value.int c.toNat else .string (Utf8.encodeChar c).toByteArray).toArray

/-- The items of a value that can be gone through. -/
def sequence? (v : Value) : Run (Option Sequence) := do
  match v with
  | .list ref => return some (.ofArray (← listItems ref))
  | .tuple items => return some (.ofArray items)
  | .dict ref => return some (.ofArray ((← dictTable ref).items.map (·.1)))
  | .range r => return some ⟨r.length, fun i => .int (r.item i)⟩
  | .elems s false => return some ⟨s.size, fun i => .string [byteAt s i].toByteArray⟩
  | .elems s true => return some ⟨s.size, fun i => .int (byteAt s i).toNat⟩
  | .codepoints s numbers => return some (.ofArray (characters s numbers))
  | .byteElems s => return some ⟨s.size, fun i => .int (byteAt s i).toNat⟩
  | _ => return none

/-- The items of a value that can be gone through; anything else is an error. -/
def items (v : Value) : Run (Array Value) := do return (← orFail (← sequence? v)).toArray

/-- The length of a value that has one. -/
def length? (v : Value) : Run (Option Nat) := do
  match v with
  | .string s => return some s.size
  | .bytes s => return some s.size
  | .tuple items => return some items.size
  | .list ref => return some (← listItems ref).size
  | .dict ref => return some (← dictTable ref).size
  | .range r => return some r.length
  | .elems s _ => return some s.size
  | _ => return none

/-- Whether a value counts as true. -/
def truth (v : Value) : Run Bool := do
  match v with
  | .none => return false
  | .bool b => return b
  | .int n => return n ≠ 0
  | .float x => return !x.isZero
  | .string s => return s.size ≠ 0
  | .bytes s => return s.size ≠ 0
  | .tuple items => return !items.isEmpty
  | .list ref => return !(← listItems ref).isEmpty
  | .dict ref => return (← dictTable ref).size ≠ 0
  | .range r => return r.length ≠ 0
  | _ => return true

/-- Goes through items from a place on as long as a step says so; `left` of them are left. -/
def goThrough (s : Sequence) (step : Value → Run Bool) : (left : Nat) → (i : Nat) → Run Unit
  | 0, _ => return ()
  | left + 1, i => do if ← step (s.item i) then goThrough s step left (i + 1)

/-- Goes through the items of a value, which cannot change meanwhile. -/
def forEach (v : Value) (step : Value → Run Bool) : Run Unit := do
  let s ← orFail (← sequence? v)
  whileReading v (goThrough s step s.length 0)

end AuditShell.Prompt.Script
