import AuditShell.Prompt.Script.Text
/-!
# Methods of lists and dictionaries in a prompt script

Most methods change their receiver, which must not be frozen and not be gone through by a loop.
-/
namespace AuditShell.Prompt.Script

/-! ## Lists -/

/-- The methods of lists. -/
def listMethods : List Name := ["append", "clear", "extend", "index", "insert", "pop", "remove"]

/-- The place of the first item that equals a value. -/
def placeOf (x : Value) : (i : Nat) → List Value → Run (Option Nat)
  | _, [] => return none
  | i, v :: vs => do if ← equal v x then return some i else placeOf x (i + 1) vs

/-- Takes the item at a place out of a list. A negative place counts from the end. -/
def popItem (ref : Nat) (i : Int) : Run Value := do
  let items ← listItems ref
  let j := if i < 0 then i + items.size else i
  if j < 0 ∨ items.size ≤ j then fail
  let v := items.getD j.toNat .none
  changeList ref (·.eraseIdxIfInBounds j.toNat)
  return v

/-- A method of a list. -/
def listMethod (ref : Nat) (n : Name) (args : List Value) : Run Value := do
  match n, args with
  | "append", [v] => changeList ref (·.push v); return .none
  | "clear", [] => changeList ref fun _ => #[]; return .none
  | "extend", [v] =>
    extend ref v
    return .none
  | "index", v :: rest =>
    let items ← listItems ref
    let (lo, hi) ← match rest with
      | [] => pure (Value.none, Value.none)
      | [lo] => pure (lo, Value.none)
      | [lo, hi] => pure (lo, hi)
      | _ => fail
    let (a, b) ← orFail (bounds items.size lo hi)
    return .int (← orFail (← placeOf v a (items.extract a b).toList))
  | "insert", [i, v] =>
    let i ← orFail (int64? i)
    changeList ref fun items =>
      let j := if i < 0 then i + items.size else i
      items.insertIdxIfInBounds (min j.toNat items.size) v
    return .none
  | "pop", [] => popItem ref ((← listItems ref).size - 1)
  | "pop", [i] => popItem ref (← orFail (int64? i))
  | "remove", [v] =>
    checkList ref
    let i ← orFail (← placeOf v 0 (← listItems ref).toList)
    changeList ref (·.eraseIdxIfInBounds i)
    return .none
  | _, _ => fail

/-! ## Dictionaries -/

/-- The methods of dictionaries. -/
def dictMethods : List Name :=
  ["clear", "get", "items", "keys", "pop", "popitem", "setdefault", "update", "values"]

/-- Puts a pair into a dictionary: two items of something that has a length. -/
def setPair (ref : Nat) (pair : Value) : Run Unit := do
  let s ← orFail (← sequence? pair)
  if (← length? pair) ≠ some 2 then fail
  dictSet ref (s.item 0) (s.item 1)

/-- Puts pairs into a dictionary, none of which can change meanwhile. -/
def setPairs (ref : Nat) : List Value → Run Unit
  | [] => return ()
  | p :: ps => whileReading p do
    setPair ref p
    setPairs ref ps

/-- Puts entries into a dictionary: those of another one or pairs, and arguments passed by name, of
which none may come twice. -/
def updateDict (ref : Nat) (updates : List Value) (named : Named) : Run Unit := do
  match updates with
  | [] => pure ()
  | [.dict other] => (← dictTable other).items.forM fun (k, v) => dictSet ref k v
  | [v] => whileReading v do setPairs ref (← items v).toList
  | _ => fail
  let before := (← dictTable ref).size
  named.forM fun (k, v) => dictSet ref (.string k) v
  if (← dictTable ref).size < before + named.length then
    let keys := named.map (·.1)
    if keys.eraseDups.length ≠ keys.length then fail

/-- A method of a dictionary. -/
def dictMethod (ref : Nat) (n : Name) (args : List Value) (named : Named) : Run Value := do
  if n = "update" then
    updateDict ref args named
    return .none
  if !named.isEmpty then fail
  match n, args with
  | "clear", [] =>
    checkDict ref
    changeDict ref fun _ => {}
    return .none
  | "get", [k] => return (← dictGet ref k).getD .none
  | "get", [k, d] => return (← dictGet ref k).getD d
  | "items", [] => newList ((← dictTable ref).items.map fun (k, v) => .tuple #[k, v])
  | "keys", [] => newList ((← dictTable ref).items.map (·.1))
  | "values", [] => newList ((← dictTable ref).items.map (·.2))
  | "pop", [k] => orFail (← dictRemove ref k)
  | "pop", [k, d] => return (← dictRemove ref k).getD d
  | "popitem", [] =>
    let (k, v) ← orFail ((← dictTable ref).entries.findSome? id)
    let _ ← dictRemove ref k
    return .tuple #[k, v]
  | "setdefault", [k] => setDefault k .none
  | "setdefault", [k, d] => setDefault k d
  | _, _ => fail
where
  /-- The value of a key, which is put in if it is missing. -/
  setDefault (k d : Value) : Run Value := do
    match ← dictGet ref k with
    | some v => return v
    | none => dictSet ref k d; return d

/-! ## All methods -/

/-- The methods of a value. -/
def methodNames : Value → List Name
  | .string _ => stringMethods
  | .bytes _ => ["elems"]
  | .list _ => listMethods
  | .dict _ => dictMethods
  | _ => []

/-- The method of a value with a name. -/
def attribute? (v : Value) (n : Name) : Run (Option Value) := do
  if (methodNames v).contains n then return some (.method (← newSerial) v n) else return none

/-- Calls a method. -/
def callMethod (receiver : Value) (n : Name) (args : List Value) (named : Named) : Run Value :=
  match receiver with
  | .string s => stringMethod s n args named
  | .dict ref => dictMethod ref n args named
  | .list ref => if named.isEmpty then listMethod ref n args else fail
  | .bytes s => if named.isEmpty && args.isEmpty then return .byteElems s else fail
  | _ => fail

end AuditShell.Prompt.Script
