import AuditShell.Prompt.Script.Parse
/-!
# Places of the variables of a prompt script

Every variable of a script has a place: in the frame of a function that is running, among the globals
of the script, or among the names that every script knows. A name that a function binds anywhere is
its own throughout; the targets of a comprehension belong to the comprehension. A script in which a
name has no place, or a statement does not belong where it stands, is refused before it runs.
-/
namespace AuditShell.Prompt.Script

/-- Where the value of a variable is kept. -/
inductive Place where
  /-- In the frame that lies the given number of functions further out. -/
  | frame (hops index : Nat)
  | global (index : Nat)
  /-- Nowhere: the value never changes. -/
  | known (n : Name)
  deriving DecidableEq, Repr

/-- The names that every script knows. -/
def standardNames : List Name :=
  ["None", "True", "False", "abs", "all", "any", "bool", "bytes", "chr", "dict", "dir", "enumerate", "fail", "float",
    "getattr", "hasattr", "hash", "int", "len", "list", "max", "min", "ord", "print", "range", "repr", "reversed",
    "sorted", "str", "tuple", "type", "zip"]

/-- The names that the shell adds. -/
def predeclared : List Name := ["user", "host"]

/-! ## What is bound -/

/-- The names that a target of an assignment binds. -/
def targetNames : (fuel : Nat) → Expr Name → List Name
  | 0, _ => []
  | _ + 1, .var n => [n]
  | fuel + 1, .tuple es => es.flatMap (targetNames fuel)
  | fuel + 1, .list es => es.flatMap (targetNames fuel)
  | _ + 1, _ => []

/-- The names that a statement binds in its block. -/
def boundNames : (fuel : Nat) → Stmt Name → List Name
  | 0, _ => []
  | fuel + 1, .assign t _ => targetNames fuel t
  | fuel + 1, .augment _ t _ => targetNames fuel t
  | fuel + 1, .if _ yes no => (yes ++ no).flatMap (boundNames fuel)
  | fuel + 1, .for t _ body => targetNames fuel t ++ body.flatMap (boundNames fuel)
  | _ + 1, .define _ n _ _ _ _ => [n]
  | _ + 1, _ => []

/-- The names that the clauses of a comprehension bind. -/
def clauseNames (fuel : Nat) (cs : Clauses Name) : List Name :=
  cs.flatMap fun c => (c.1.map (targetNames fuel)).getD []

/-! ## What is refused -/

/-- Whether no name comes twice. -/
def allDistinct : List Name → Bool
  | [] => true
  | n :: ns => !ns.contains n && allDistinct ns

/-- Whether the parameters of a function come in a possible order. `optional` says that one with a
default came before, `named` that a star did, and `last` that a doubly starred one did. -/
def paramsInOrder {V : Type} : (optional named last : Bool) → Params V → Bool
  | _, _, _, [] => true
  | optional, named, last, (.plain, _, default) :: ps =>
    !last && (named || default.isSome || !optional) && paramsInOrder (optional || default.isSome) named last ps
  | optional, named, last, (.bareStar, _, _) :: ps =>
    !last && !named && ps.any (·.1 = .plain) && paramsInOrder optional true last ps
  | optional, named, last, (.star, _, _) :: ps => !last && !named && paramsInOrder optional true last ps
  | optional, named, last, (.doubleStar, _, _) :: ps => !last && paramsInOrder optional named true ps

/-- The parameters in the order of their places: the plain ones, then the one for further positional
arguments and the one for further named ones. -/
def placedNames {V : Type} (ps : Params V) : List Name :=
  let ofKind (k : ParamKind) : List Name := (ps.filter (·.1 = k)).map (·.2.1)
  ofKind .plain ++ ofKind .star ++ ofKind .doubleStar

/-- The greatest number of arguments of a kind that a call is written with. -/
def argumentLimit : Nat := 255

/-- Whether the arguments of a call come in a possible order: positional ones, named ones, a starred
one and a doubly starred one. -/
def argsInOrder {V : Type} (as : List (ArgKind × Expr V)) : Bool :=
  let rank : ArgKind → Nat
    | .positional => 0
    | .keyword _ => 1
    | .star => 2
    | .doubleStar => 3
  let ranks := as.map fun a => rank a.1
  let names := as.filterMap fun a => match a.1 with
    | .keyword n => some n
    | _ => none
  ranks.Pairwise (· ≤ ·) && allDistinct names && ranks.count 0 ≤ argumentLimit && ranks.count 1 ≤ argumentLimit &&
    ranks.count 2 ≤ 1 && ranks.count 3 ≤ 1

/-- Whether something can be assigned to. -/
def isTarget : (fuel : Nat) → Expr Name → Bool
  | 0, _ => false
  | _ + 1, .var _ => true
  | _ + 1, .index _ _ => true
  | _ + 1, .attribute _ _ => true
  | fuel + 1, .tuple es => es.all (isTarget fuel)
  | fuel + 1, .list es => es.all (isTarget fuel)
  | _ + 1, _ => false

/-- Whether something can be changed by an operator. -/
def isAugmentable : Expr Name → Bool
  | .var _ => true
  | .index _ _ => true
  | .attribute _ _ => true
  | _ => false

/-! ## Places -/

/-- Names that belong together, with their places in the frame of a function. `boundary` says that a
function starts here. -/
structure Block where
  names : List (Name × Nat)
  boundary : Bool

/-- Where a part of a script stands. -/
structure Scope where
  /-- The blocks around it, the innermost first. -/
  blocks : List Block
  /-- The names that the script binds at its top. -/
  globals : List Name
  inFunction : Bool := false
  inLoop : Bool := false

/-- The place of a name in the blocks, `hops` functions further out. -/
def placeIn (n : Name) : (hops : Nat) → List Block → Option Place
  | _, [] => none
  | hops, b :: bs =>
    match b.names.lookup n with
    | some i => some (.frame hops i)
    | none => placeIn n (if b.boundary then hops + 1 else hops) bs

/-- The place of a name. -/
def Scope.place (sc : Scope) (n : Name) : Option Place :=
  match placeIn n 0 sc.blocks with
  | some p => some p
  | none =>
    match sc.globals.idxOf? n with
    | some i => some (.global i)
    | none => if predeclared.contains n || standardNames.contains n then some (.known n) else none

/-- Resolving the names of a script. The state is the number of places that the current frame has. -/
abbrev Resolver := StateT Nat Option

/-- Gives names places in the current frame. -/
def allot (names : List Name) : Resolver (List (Name × Nat)) := do
  let start ← get
  let names := names.eraseDups
  set (start + names.length)
  return names.zipIdx start

/-- Refuses a script that does not meet a condition. -/
def require (ok : Bool) : Resolver Unit := if ok then return () else failure

/-- What is resolved where something may be absent. -/
def optionally {α β : Type} (f : α → Resolver β) : Option α → Resolver (Option β)
  | none => return none
  | some a => some <$> f a

mutual

/-- An expression with places for its names. -/
def resolveExpr : (fuel : Nat) → Scope → Expr Name → Resolver (Expr Place)
  | 0, _, _ => failure
  | fuel + 1, sc, e => do
    let sub := resolveExpr fuel sc
    match e with
    | .var n => .var <$> StateT.lift (sc.place n)
    | .int n => return .int n
    | .float d => return .float d
    | .string s => return .string s
    | .bytes s => return .bytes s
    | .list es => .list <$> es.mapM sub
    | .tuple es => .tuple <$> es.mapM sub
    | .dict es => .dict <$> es.mapM fun (k, v) => return (← sub k, ← sub v)
    | .unary op a => .unary op <$> sub a
    | .binary op a b => return .binary op (← sub a) (← sub b)
    | .conditional a b c => return .conditional (← sub a) (← sub b) (← sub c)
    | .index a b => return .index (← sub a) (← sub b)
    | .slice a b c d =>
      return .slice (← sub a) (← optionally sub b) (← optionally sub c) (← optionally sub d)
    | .attribute a n => return .attribute (← sub a) n
    | .call f as =>
      require (argsInOrder as)
      return .call (← sub f) (← as.mapM fun a => return (a.1, ← sub a.2))
    | .lambda id _ ps body =>
      let ps' ← resolveParams fuel sc ps
      let (body', size) ← StateT.lift (StateT.run (do
        let names ← allot (placedNames ps)
        resolveExpr fuel ⟨⟨names, true⟩ :: sc.blocks, sc.globals, true, false⟩ body) 0)
      return .lambda id size ps' body'
    | .listOf el cs =>
      let (inner, cs') ← resolveClauses fuel sc cs
      return .listOf (← resolveExpr fuel inner el) cs'
    | .dictOf k v cs =>
      let (inner, cs') ← resolveClauses fuel sc cs
      return .dictOf (← resolveExpr fuel inner k) (← resolveExpr fuel inner v) cs'

/-- The parameters of a function. Their defaults belong to the block around it. -/
def resolveParams : (fuel : Nat) → Scope → Params Name → Resolver (Params Place)
  | 0, _, _ => failure
  | fuel + 1, sc, ps => do
    require (paramsInOrder false false false ps && allDistinct (placedNames ps))
    ps.mapM fun (k, n, d) => return (k, n, ← optionally (resolveExpr fuel sc) d)

/-- The clauses of a comprehension, and the scope of what they build. The first loop goes through
something of the block around it. -/
def resolveClauses : (fuel : Nat) → Scope → Clauses Name → Resolver (Scope × Clauses Place)
  | 0, _, _ => failure
  | fuel + 1, sc, cs => do
    let first ← optionally (fun c => resolveExpr fuel sc c.2) cs.head?
    let names ← allot (clauseNames fuel cs)
    let inner := { sc with blocks := ⟨names, false⟩ :: sc.blocks }
    let cs' ← cs.zipIdx.mapM fun ((t, e), i) => do
      let t' ← optionally (fun t => do require (isTarget fuel t); resolveExpr fuel inner t) t
      match i, first with
      | 0, some e' => return (t', e')
      | _, _ => return (t', ← resolveExpr fuel inner e)
    return (inner, cs')

end

/-- A statement with places for its names. -/
def resolveStmt : (fuel : Nat) → Scope → Stmt Name → Resolver (Stmt Place)
  | 0, _, _ => failure
  | fuel + 1, sc, s => do
    let sub := resolveExpr fuel sc
    match s with
    | .expr e => .expr <$> sub e
    | .assign t e =>
      require (isTarget fuel t)
      return .assign (← sub t) (← sub e)
    | .augment op t e =>
      require (isAugmentable t)
      return .augment op (← sub t) (← sub e)
    | .return e =>
      require sc.inFunction
      .return <$> optionally sub e
    | .pass => return .pass
    | .break => require sc.inLoop; return .break
    | .continue => require sc.inLoop; return .continue
    | .if c yes no =>
      require sc.inFunction
      return .if (← sub c) (← yes.mapM (resolveStmt fuel sc)) (← no.mapM (resolveStmt fuel sc))
    | .for t e body =>
      require (sc.inFunction && isTarget fuel t)
      return .for (← sub t) (← sub e) (← body.mapM (resolveStmt fuel { sc with inLoop := true }))
    | .define v n id _ ps body =>
      let v' ← StateT.lift (sc.place v)
      let ps' ← resolveParams fuel sc ps
      let (body', size) ← StateT.lift (StateT.run (do
        let names ← allot (placedNames ps ++ body.flatMap (boundNames fuel))
        body.mapM (resolveStmt fuel ⟨⟨names, true⟩ :: sc.blocks, sc.globals, true, false⟩)) 0)
      return .define v' n id size ps' body'
    | .load names =>
      require !sc.inFunction
      return .load names

/-- A script with places for its names. -/
structure Program where
  body : List (Stmt Place)
  /-- The names of its globals, by their places. -/
  globals : List Name
  /-- The number of variables of the comprehensions at its top. -/
  size : Nat

/-- The places of the names of a script, or nothing where it is refused. At the top of a script a
name is bound only once. -/
def resolve (fuel : Nat) (ss : List (Stmt Name)) : Option Program := do
  let globals := ss.flatMap (boundNames fuel)
  let loaded := ss.flatMap fun s => match s with
    | .load names => names
    | _ => []
  if ¬ allDistinct (globals ++ loaded) then none
  let (body, size) ← StateT.run (do
    let names ← allot loaded
    ss.mapM (resolveStmt fuel ⟨[⟨names, true⟩], globals, false, false⟩)) 0
  return ⟨body, globals, size⟩

end AuditShell.Prompt.Script
