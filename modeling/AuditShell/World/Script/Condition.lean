import AuditShell.World.Script.State
/-!
# Conditions

The conditions of `test` and `[`. Operators are told from operands by what stands around them; a
condition of three words with an operator in the middle is always a comparison.
-/
namespace AuditShell.World.Script.Condition

/-- What a word of a condition means. -/
inductive Role where
  | operand
  | unary
  | binary
  | not
  | and
  | or
  | opening
  | closing
  | missing
  deriving DecidableEq, Repr

/-- The operators before one operand. -/
def unaryNames : List Bytes :=
  ["-r", "-w", "-x", "-e", "-f", "-d", "-c", "-b", "-p", "-u", "-g", "-k", "-s", "-t", "-z", "-n", "-h", "-L", "-O", "-G",
    "-S"].map text

/-- The operators between two operands. -/
def binaryNames : List Bytes :=
  ["=", "!=", "<", ">", "-eq", "-ne", "-ge", "-gt", "-le", "-lt", "-nt", "-ot", "-ef"].map text

/-- What a word means by itself. -/
def role (b : Bytes) : Role :=
  if unaryNames.elem b then .unary
  else if binaryNames.elem b then .binary
  else if b = text "!" then .not
  else if b = text "-a" then .and
  else if b = text "-o" then .or
  else if b = text "(" then .opening
  else if b = text ")" then .closing
  else .operand

/-- What the first of some words means. -/
def roleAt : List Bytes → Role
  | [] => .missing
  | b :: rest =>
    match role b, rest with
    | .unary, [] => .operand
    | .unary, [_] => .unary
    | .unary, c :: _ => if role c = .binary then .operand else .unary
    | .opening, [] => .operand
    | r, _ => r

/-- The integer of an operand. -/
def number (b : Bytes) : Except Bytes Int :=
  let isGap (x : UInt8) : Bool := isSpaceByte x || x == byte '\n'
  let trimmed := ((b.dropWhile isGap).reverse.dropWhile isGap).reverse
  let (negative, ds) := match trimmed with
    | c :: rest => if c == byte '-' then (true, rest) else if c == byte '+' then (false, rest) else (false, trimmed)
    | [] => (false, [])
  match Program.number? ds with
  | some n => .ok (if negative then -n else n)
  | none => .error (text "Illegal number: " ++ b)

/-- Whether an operator before one operand holds. -/
def unary (e : Surroundings) (op a : Bytes) : Bool :=
  if op = text "-z" then a.isEmpty
  else if op = text "-n" then !a.isEmpty
  else if op = text "-t" then false
  else if a = text "/dev/null" ∨ a = text "/dev/zero" then (["-e", "-r", "-w", "-c"].map text).elem op
  else
    match e.disk.resolve e.cwd a with
    | .ok (.file _ content x) =>
      (["-f", "-e", "-r", "-w", "-O", "-G"].map text).elem op || (op = text "-s" && !content.isEmpty) ||
        (op = text "-x" && x)
    | .ok (.dir _) => (["-d", "-e", "-r", "-w", "-x", "-s", "-O", "-G"].map text).elem op
    | _ => false

/-- Whether an operator between two operands holds. -/
def binary (op a b : Bytes) : Except Bytes Bool := do
  if op = text "=" then return a = b
  if op = text "!=" then return a ≠ b
  if op = text "<" then return Bytes.le a b && a ≠ b
  if op = text ">" then return Bytes.le b a && a ≠ b
  if op = text "-nt" ∨ op = text "-ot" ∨ op = text "-ef" then return false
  let order := compare (← number a) (← number b)
  return (op = text "-eq" && order = .eq) || (op = text "-ne" && order ≠ .eq) || (op = text "-lt" && order = .lt) ||
    (op = text "-le" && order ≠ .gt) || (op = text "-gt" && order = .gt) || (op = text "-ge" && order ≠ .lt)

mutual

/-- Values alternatives. The words that are left start with the last one that was used. -/
def alternatives (e : Surroundings) : Nat → Role → List Bytes → Except Bytes (Bool × List Bytes)
  | 0, _, ws => .ok (false, ws)
  | fuel + 1, r, ws => do
    let (a, ws) ← conjunction e fuel r ws
    if roleAt ws.tail = .or then
      let rest := ws.drop 2
      let (b, ws) ← alternatives e fuel (roleAt rest) rest
      return (a || b, ws)
    else return (a, ws)

/-- Values conditions that hold together. -/
def conjunction (e : Surroundings) : Nat → Role → List Bytes → Except Bytes (Bool × List Bytes)
  | 0, _, ws => .ok (false, ws)
  | fuel + 1, r, ws => do
    let (a, ws) ← negation e fuel r ws
    if roleAt ws.tail = .and then
      let rest := ws.drop 2
      let (b, ws) ← conjunction e fuel (roleAt rest) rest
      return (a && b, ws)
    else return (a, ws)

/-- Values a condition or its opposite. -/
def negation (e : Surroundings) : Nat → Role → List Bytes → Except Bytes (Bool × List Bytes)
  | 0, _, ws => .ok (false, ws)
  | fuel + 1, r, ws => do
    if r = .not then
      let r := roleAt ws.tail
      let (a, ws) ← negation e fuel r (if r = .missing then ws else ws.tail)
      return (!a, ws)
    else primary e fuel r ws

/-- Values a condition without connectives, or one in brackets. -/
def primary (e : Surroundings) : Nat → Role → List Bytes → Except Bytes (Bool × List Bytes)
  | 0, _, ws => .ok (false, ws)
  | fuel + 1, r, ws => do
    match r, ws with
    | .missing, _ => return (false, ws)
    | .opening, _ :: rest =>
      if roleAt rest = .closing then return (false, rest)
      let (a, ws) ← alternatives e fuel (roleAt rest) rest
      if roleAt ws.tail = .closing then return (a, ws.tail) else .error (text "closing paren expected")
    | .unary, op :: rest =>
      match rest with
      | [] => .error (op ++ text ": argument expected")
      | a :: _ => return (unary e op a, rest)
    | _, a :: rest =>
      match roleAt rest, rest with
      | .binary, [op] => .error (op ++ text ": argument expected")
      | .binary, op :: b :: more => return (← binary op a b, b :: more)
      | _, _ => return (!a.isEmpty, ws)
    | _, [] => return (false, [])

end

/-- Values the words of a condition from a given meaning of the first on. -/
def value (e : Surroundings) (r : Role) (ws : List Bytes) : Except Bytes Bool := do
  let (a, left) ← alternatives e (4 * ws.length + 8) r ws
  match left with
  | op :: _ :: _ => .error (if op.isEmpty then text "unexpected operator" else op ++ text ": unexpected operator")
  | _ => return a

/-- Whether a condition holds, or what is wrong with it. `fuel` bounds the number of negations. -/
def holds (e : Surroundings) : (fuel : Nat) → List Bytes → Except Bytes Bool
  | _, [] => .ok false
  | 0, _ => .ok false
  | fuel + 1, ws =>
    if ws.length = 3 ∧ (ws.drop 1).head?.any (role · = .binary) then value e .operand ws
    else if ws.length = 3 ∨ ws.length = 4 then
      if ws.head? = some (text "(") ∧ ws.getLast? = some (text ")") then
        let inner := ws.tail.dropLast
        value e (roleAt inner) inner
      else if ws.head? = some (text "!") then (holds e fuel ws.tail).map (!·)
      else value e (roleAt ws) ws
    else value e (roleAt ws) ws

end AuditShell.World.Script.Condition
