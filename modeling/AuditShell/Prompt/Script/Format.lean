import AuditShell.Prompt.Script.Operator
/-!
# Formatting texts in a prompt script

A text with percent signs takes the items of a tuple or the entries of a dictionary; a text with
braces takes the arguments of a call, in order, by number or by name.
-/
namespace AuditShell.Prompt.Script

/-- The text of an integer in a base. -/
def inBase (base : Nat) (n : Int) : String :=
  (if n < 0 then "-" else "") ++ String.ofList (Nat.toDigits base n.natAbs)

/-- The number of double precision nearest to a number, infinite where it is too large. -/
def float? : Value → Option Binary64
  | .int n => some (.ofInt n)
  | .float x => some x
  | _ => none

/-- The character with a number, if there is one; a surrogate shows as the replacement character. -/
def character? (n : Int) : Option Char :=
  if n < 0 ∨ 0x10FFFF < n then none
  else some (if n.toNat.isValidChar then Char.ofNat n.toNat else replacement)

/-- One value shown as a format asks. -/
def formatOne (d : UInt8) (v : Value) : Run ByteArray := do
  let whole (f : Int → String) : Run ByteArray := do return str (f (← orFail (wholeNumber? v)))
  let float (f : Binary64 → List Char) : Run ByteArray := do return str (String.ofList (f (← orFail (float? v))))
  match Char.ofNat d.toNat with
  | 's' => shown v
  | 'r' => repr v
  | 'd' => whole toString
  | 'i' => whole toString
  | 'o' => whole (inBase 8)
  | 'x' => whole (inBase 16)
  | 'X' => whole fun n => (inBase 16 n).toUpper
  | 'e' => float (Binary64.render .exponent 'e')
  | 'E' => float (Binary64.render .exponent 'E')
  | 'f' => float (Binary64.render .point 'e')
  | 'g' => float (Binary64.render .short 'e')
  | 'G' => float (Binary64.render .short 'E')
  | 'F' => float fun x => match x with
    | .finite _ => ['%', 'F']
    | x => x.render .point 'e'
  | 'c' =>
    match v with
    | .int n => do return (Utf8.encodeChar (← orFail (character? n))).toByteArray
    | .string s =>
      match Utf8.decode s.toList with
      | [c] => return (Utf8.encodeChar c).toByteArray
      | _ => fail
    | _ => fail
  | '%' => return str "%"
  | _ => fail

/-- A format with values put in. `used` counts the values that were. -/
def formatFrom (v : Value) (args : Array Value) : (fuel used : Nat) → Bytes → ByteArray → Run (Nat × ByteArray)
  | 0, _, _, _ => fail
  | _ + 1, used, [], out => return (used, out)
  | fuel + 1, used, 0x25 :: rest, out =>
    match rest with
    | 0x25 :: rest => formatFrom v args fuel used rest (out.push 0x25)
    | 0x28 :: rest => do
      let key := rest.takeWhile (· ≠ 0x29)
      let ref ← match v with
        | .dict ref => pure ref
        | _ => fail
      match rest.drop key.length with
      | 0x29 :: d :: rest =>
        let w ← orFail (← dictGet ref (.string key.toByteArray))
        formatFrom v args fuel (used + 1) rest (out ++ (← formatOne d w))
      | _ => fail
    | d :: rest => do
      let w ← orFail args[used]?
      formatFrom v args fuel (used + 1) rest (out ++ (← formatOne d w))
    | [] => fail
  | fuel + 1, used, b :: rest, out => formatFrom v args fuel used rest (out.push b)

/-- A text with percent signs, formatted with a value. All items of a tuple must be used. -/
def formatPercent (s : ByteArray) (v : Value) : Run Value := do
  let args := match v with
    | .tuple items => items
    | v => #[v]
  let (used, out) ← formatFrom v args (s.size + 1) 0 s.toList .empty
  let mapping := match v with
    | .dict _ => true
    | _ => false
  if used < args.size && !mapping then fail
  return .string out

/-! ## Braces -/

/-- How the arguments of a format were named so far. -/
inductive Numbering where
  | unknown
  | automatic (next : Nat)
  | manual
  deriving DecidableEq, Repr

/-- The argument that a field names, and the numbering afterwards. -/
def fieldValue (args : Array Value) (named : Named) (numbering : Numbering) (field : Bytes) :
    Run (Value × Numbering) := do
  if field = [] then
    match numbering with
    | .manual => fail
    | .unknown => return (← orFail args[0]?, .automatic 1)
    | .automatic i => return (← orFail args[i]?, .automatic (i + 1))
  let digits := Utf8.decode field
  let n := Binary64.digitsValue 10 digits
  if digits.all Char.isDigit ∧ n < 0x8000000000000000 then
    match numbering with
    | .automatic _ => fail
    | _ => return (← orFail args[n]?, .manual)
  else return (← orFail ((named.find? fun a => a.1 == field.toByteArray).map (·.2)), numbering)

/-- The text of a field between braces: a name, and after an exclamation mark how it is shown. What
follows a colon must be empty. -/
def formatField (args : Array Value) (named : Named) (numbering : Numbering) (field : Bytes) :
    Run (ByteArray × Numbering) := do
  let (name, conv, spec) : Bytes × Bytes × Bytes :=
    if field.elem 0x21 then
      let name := field.takeWhile (· ≠ 0x21)
      let rest := field.drop (name.length + 1)
      let conv := rest.takeWhile (· ≠ 0x3A)
      (name, conv, rest.drop (conv.length + 1))
    else
      let name := field.takeWhile (· ≠ 0x3A)
      (name, text "s", field.drop (name.length + 1))
  let (v, numbering) ← fieldValue args named numbering name
  if spec ≠ [] then fail
  else if conv = text "s" then return (← shown v, numbering)
  else if conv = text "r" then return (← repr v, numbering)
  else fail

/-- A text in which fields between braces are replaced by arguments. -/
def formatBraces (args : Array Value) (named : Named) :
    (fuel : Nat) → Numbering → Bytes → ByteArray → Run ByteArray
  | 0, _, _, _ => fail
  | _ + 1, _, [], out => return out
  | fuel + 1, numbering, 0x7B :: 0x7B :: rest, out => formatBraces args named fuel numbering rest (out.push 0x7B)
  | fuel + 1, numbering, 0x7D :: 0x7D :: rest, out => formatBraces args named fuel numbering rest (out.push 0x7D)
  | fuel + 1, numbering, 0x7B :: rest, out => do
    let field := rest.takeWhile (· ≠ 0x7D)
    match rest.drop field.length with
    | [] => fail
    | _ :: rest =>
      let (shown, numbering) ← formatField args named numbering field
      formatBraces args named fuel numbering rest (out ++ shown)
  | _ + 1, _, 0x7D :: _, _ => fail
  | fuel + 1, numbering, b :: rest, out => formatBraces args named fuel numbering rest (out.push b)

end AuditShell.Prompt.Script
