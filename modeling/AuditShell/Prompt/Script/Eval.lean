import AuditShell.Prompt.Script.Standard
/-!
# Running prompt scripts

A script is loaded by running its statements, which bind its names; afterwards its functions can be
called. A function may not be called while it is running, so every run ends: a run goes no deeper than
all functions of the script nested in each other.
-/
namespace AuditShell.Prompt.Script

/-- Where code runs: its frame, the frames of the functions around it, and the functions that are
running. -/
structure Env where
  frame : Nat
  outer : List Nat := []
  running : List Nat := []

/-- The value of a name that every script knows. -/
def knownValue (n : Name) : Run Value := do
  match (← get).given.lookup n with
  | some v => return v
  | none =>
    match n with
    | "None" => return .none
    | "True" => return .bool true
    | "False" => return .bool false
    | n => return .builtin n

/-- The frame that lies some functions further out. -/
def Env.frameAt (env : Env) : Nat → Option Nat
  | 0 => some env.frame
  | hops + 1 => env.outer[hops]?

/-- The value at a place. A variable has none before it is bound. -/
def readPlace (env : Env) : Place → Run Value
  | .frame hops i => do
    let f ← orFail (env.frameAt hops)
    orFail (((← get).frames[f]?.bind fun slots => slots[i]?).bind id)
  | .global i => do orFail ((← get).globals[i]?.bind id)
  | .known n => knownValue n

/-- Puts a value at a place. -/
def writePlace (env : Env) (p : Place) (v : Value) : Run Unit := do
  match p with
  | .frame hops i =>
    let f ← orFail (env.frameAt hops)
    modify fun h => { h with frames := h.frames.modify f (·.setIfInBounds i (some v)) }
  | .global i => modify fun h => { h with globals := h.globals.setIfInBounds i (some v) }
  | .known _ => fail

/-- How a statement ends. -/
inductive Flow where
  | next
  | break
  | continue
  | return (v : Value)

/-! ## Calls -/

/-- Gives the parameters of a function their arguments: positional ones to the plain parameters before
a star, others by name. What is left goes to the starred parameters, and a parameter without an
argument takes its default. -/
def bindArguments (code : Code) (defaults : List (Option Value)) (args : List Value) (named : Named) :
    Run (Array (Option Value)) := do
  let has (k : ParamKind) : Bool := code.params.any (·.1 = k)
  let plain := (code.params.filter (·.1 = .plain)).map (·.2)
  let free := (code.params.takeWhile (·.1 = .plain)).length
  if free < args.length && !has .star then fail
  let slots := ((args.take free).map some).toArray ++ Array.replicate (code.size - min free args.length) none
  let (slots, extra) ← named.foldlM (fun (slots, extra) (k, v) => do
    match plain.findIdx? fun p => str p == k with
    | some i => if (slots[i]?.bind id).isSome then fail else return (slots.setIfInBounds i (some v), extra)
    | none => if has .doubleStar && !extra.any (·.1 == k) then return (slots, (k, v) :: extra) else fail)
    (slots, ([] : Named))
  let slots ← (defaults.take plain.length).zipIdx.foldlM (fun slots (d, i) => do
    if (slots[i]?.bind id).isSome then return slots
    else return slots.setIfInBounds i (some (← orFail d))) slots
  let slots := if has .star then slots.setIfInBounds plain.length (some (.tuple (args.drop free).toArray)) else slots
  if has .doubleStar then
    let d ← newDict {}
    match d with
    | .dict ref => extra.reverse.forM fun (k, v) => dictSet ref (.string k) v
    | _ => fail
    return slots.setIfInBounds (if has .star then plain.length + 1 else plain.length) (some d)
  return slots

/-- A new function. The defaults of its plain parameters come in their order. -/
def newFunction (env : Env) (id size : Nat) (name : Name) (params : Params Place) (body : Body)
    (default : Expr Place → Run Value) : Run Value := do
  let plain := params.filter (·.1 = .plain)
  let defaults ← plain.mapM fun p => match p.2.2 with
    | some e => some <$> default e
    | none => pure none
  let code : Code := ⟨id, name, size, params.map fun p => (p.1, p.2.1), body⟩
  return .function (← newSerial) code defaults (env.frame :: env.outer)

/-- The arguments that the entries of a dictionary are passed as. -/
def namedArguments (v : Value) : Run Named := do
  match v with
  | .dict ref =>
    (← dictTable ref).items.toList.mapM fun (k, w) => match k with
      | .string s => pure (s, w)
      | _ => fail
  | _ => fail

/-- Adds an argument to those of a call. -/
def passArgument (kind : ArgKind) (v : Value) (sofar : List Value × Named) : Run (List Value × Named) := do
  match kind with
  | .positional => return (sofar.1 ++ [v], sofar.2)
  | .keyword n => return (sofar.1, sofar.2 ++ [(str n, v)])
  | .star => return (sofar.1 ++ (← items v).toList, sofar.2)
  | .doubleStar => return (sofar.1, sofar.2 ++ (← namedArguments v))

/-! ## Statements -/

/-- Runs statements in order until one of them does not go on. -/
def inOrder {α : Type} (run : α → Run Flow) : List α → Run Flow
  | [] => return .next
  | s :: ss => do
    match ← run s with
    | .next => inOrder run ss
    | f => return f

/-- Runs the body of a loop for each item, from a place on; `left` of them are left. -/
def loop (s : Sequence) (run : Value → Run Flow) : (left : Nat) → (i : Nat) → Run Flow
  | 0, _ => return .next
  | left + 1, i => do
    match ← run (s.item i) with
    | .break => return .next
    | .return v => return .return v
    | _ => loop s run left (i + 1)

/-- Puts as many values into targets as there are. -/
def unpack (assign : Expr Place → Value → Run Unit) (targets : List (Expr Place)) (v : Value) : Run Unit := do
  let s ← orFail (← sequence? v)
  if s.length ≠ targets.length then fail
  targets.zipIdx.forM fun (t, i) => assign t (s.item i)

mutual

/-- The value of an expression. -/
def eval : (fuel : Nat) → Env → Expr Place → Run Value
  | 0, _, _ => fail
  | fuel + 1, env, e => do
    match e with
    | .var p => readPlace env p
    | .int n => return .int n
    | .float d => return .float (.finite d)
    | .string s => return .string s.toByteArray
    | .bytes s => return .bytes s.toByteArray
    | .list es => do newList (← es.mapM (eval fuel env)).toArray
    | .tuple es => return .tuple (← es.mapM (eval fuel env)).toArray
    | .dict es =>
      let d ← newDict {}
      match d with
      | .dict ref => es.forM fun (k, v) => do
        let key ← eval fuel env k
        let value ← eval fuel env v
        if (← dictGet ref key).isSome then fail
        dictSet ref key value
      | _ => fail
      return d
    | .unary op a => do unaryValue op (← eval fuel env a)
    | .binary op a b =>
      let x ← eval fuel env a
      match op, x with
      | .and, x => if ← truth x then eval fuel env b else return x
      | .or, x => if ← truth x then return x else eval fuel env b
      | .mod, .string s => do formatPercent s (← eval fuel env b)
      | op, x => do binaryValue op x (← eval fuel env b)
    | .conditional c yes no => do if ← truth (← eval fuel env c) then eval fuel env yes else eval fuel env no
    | .index a i => do indexValue (← eval fuel env a) (← eval fuel env i)
    | .slice a lo hi step =>
      let part (x : Option (Expr Place)) : Run Value := match x with
        | some x => eval fuel env x
        | none => return .none
      sliceValue (← eval fuel env a) (← part lo) (← part hi) (← part step)
    | .attribute a n => do orFail (← attribute? (← eval fuel env a) n)
    | .call f args =>
      let callee ← eval fuel env f
      let values ← args.mapM fun a => return (a.1, ← eval fuel env a.2)
      let (positional, named) ← values.foldlM (fun sofar a => passArgument a.1 a.2 sofar) ([], [])
      call fuel env.running callee positional named
    | .lambda id size ps body => newFunction env id size "lambda" ps (.value body) (eval fuel env)
    | .listOf el cs =>
      let l ← newList #[]
      match l with
      | .list ref => build fuel env cs do
        let v ← eval fuel env el
        changeList ref (·.push v)
      | _ => fail
      return l
    | .dictOf k v cs =>
      let d ← newDict {}
      match d with
      | .dict ref => build fuel env cs do
        let key ← eval fuel env k
        dictSet ref key (← eval fuel env v)
      | _ => fail
      return d

/-- Runs the clauses of a comprehension, and `step` for each combination that passes. -/
def build : (fuel : Nat) → Env → Clauses Place → (step : Run Unit) → Run Unit
  | 0, _, _, _ => fail
  | _ + 1, _, [], step => step
  | fuel + 1, env, (none, c) :: cs, step => do if ← truth (← eval fuel env c) then build fuel env cs step
  | fuel + 1, env, (some t, e) :: cs, step => do
    forEach (← eval fuel env e) fun v => do
      assign fuel env t v
      build fuel env cs step
      return true

/-- Calls a value. -/
def call : (fuel : Nat) → (running : List Nat) → Value → List Value → Named → Run Value
  | 0, _, _, _, _ => fail
  | fuel + 1, running, f, args, named => do
    match f with
    | .builtin n => callStandard (fun g vs => call fuel running g vs []) n args named
    | .method _ r n => callMethod r n args named
    | .function _ code defaults outer =>
      if running.contains code.id then fail
      let frame ← newFrame (← bindArguments code defaults args named)
      let env : Env := ⟨frame, outer, code.id :: running⟩
      match code.body with
      | .value e => eval fuel env e
      | .block ss =>
        match ← inOrder (exec fuel env) ss with
        | .return v => return v
        | _ => return .none
    | _ => fail

/-- Puts a value into a target. -/
def assign : (fuel : Nat) → Env → Expr Place → Value → Run Unit
  | 0, _, _, _ => fail
  | fuel + 1, env, t, v => do
    match t with
    | .var p => writePlace env p v
    | .tuple ts => unpack (assign fuel env) ts v
    | .list ts => unpack (assign fuel env) ts v
    | .index a i =>
      let x ← eval fuel env a
      setIndex x (← eval fuel env i) v
    | _ => fail

/-- Runs a statement. -/
def exec : (fuel : Nat) → Env → Stmt Place → Run Flow
  | 0, _, _ => fail
  | fuel + 1, env, s => do
    match s with
    | .expr e => let _ ← eval fuel env e; return .next
    | .assign t e =>
      let v ← eval fuel env e
      assign fuel env t v
      return .next
    | .augment op t e =>
      match t with
      | .var p =>
        let old ← readPlace env p
        writePlace env p (← augmented fuel env op old e)
      | .index a i =>
        let x ← eval fuel env a
        let k ← eval fuel env i
        let old ← indexValue x k
        setIndex x k (← augmented fuel env op old e)
      | _ => fail
      return .next
    | .return none => return .return .none
    | .return (some e) => return .return (← eval fuel env e)
    | .pass => return .next
    | .break => return .break
    | .continue => return .continue
    | .if c yes no => inOrder (exec fuel env) (if ← truth (← eval fuel env c) then yes else no)
    | .for t e body =>
      let v ← eval fuel env e
      let s ← orFail (← sequence? v)
      whileReading v (loop s (fun x => do
        assign fuel env t x
        inOrder (exec fuel env) body) s.length 0)
    | .define p n id size ps body =>
      writePlace env p (← newFunction env id size n ps (.block body) (eval fuel env))
      return .next
    | .load _ => fail

/-- What an operator makes of an old value and an expression. -/
def augmented : (fuel : Nat) → Env → BinaryOp → Value → Expr Place → Run Value
  | 0, _, _, _, _ => fail
  | fuel + 1, env, op, old, e => do
    let v ← eval fuel env e
    match op, old with
    | .mod, .string s => formatPercent s v
    | op, old => augmentValue op old v

end

/-! ## Scripts -/

/-- A loaded script: what it bound, and how deep its runs go at most. -/
structure Loaded where
  heap : Heap
  prompt : Value
  depth : Nat

/-- Why a script cannot be used. -/
inductive LoadError where
  /-- It cannot be read or run. -/
  | broken
  /-- It binds no function `prompt`. -/
  | noPrompt
  deriving DecidableEq, Repr

/-- How deep the runs of a script of a length go at most: each of its functions goes no deeper than
its text. -/
def runDepth (length : Nat) : Nat := (length + 2) * (length + 2)

/-- The heap of a script before it runs. -/
def Program.heap (p : Program) (user host : Bytes) : Heap :=
  { globals := Array.replicate p.globals.length none
    frames := #[Array.replicate p.size none]
    given := [("user", .string user.toByteArray), ("host", .string host.toByteArray)] }

/-- The heap of a script that has run. What is on it can no longer change. -/
def Heap.frozen (h : Heap) : Heap := { h with frozenLists := h.lists.size, frozenDicts := h.dicts.size }

/-- What a script bound to the name `prompt` when it ran. -/
def promptOf (p : Program) (h : Heap) : Option Value := do
  let f ← h.globals[← p.globals.idxOf? "prompt"]?
  f.filter Value.isCallable

/-- Loads a script with the given user and host. Gives what it prints besides. -/
def load (user host source : Bytes) : Except LoadError Loaded × Bytes :=
  let depth := runDepth source.length
  match (parse source).bind (resolve depth) with
  | none => (.error .broken, [])
  | some p =>
    match inOrder (exec depth ⟨0, [], []⟩) p.body (p.heap user host) with
    | .error _ h => (.error .broken, h.printed.toList)
    | .ok _ h =>
      match promptOf p h with
      | some f => (.ok ⟨h.frozen, f, depth⟩, h.printed.toList)
      | none => (.error .noPrompt, h.printed.toList)

/-- What a call of the prompt function gives. -/
inductive Shown where
  | text (s : Bytes)
  /-- The call failed. -/
  | failed
  /-- The call gave something else than a string, of the named type. -/
  | wrongType (name : Bytes)
  deriving DecidableEq, Repr

/-- Calls the prompt function with the working directory and the last status. -/
def Loaded.call (l : Loaded) (cwd : Bytes) (status : Int) : Shown :=
  match Script.call l.depth [] l.prompt [.string cwd.toByteArray, .int status] [] l.heap with
  | .error _ _ => .failed
  | .ok (.string s) _ => .text s.toList
  | .ok v _ => .wrongType (text v.typeName)

end AuditShell.Prompt.Script
