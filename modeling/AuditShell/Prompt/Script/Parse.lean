import AuditShell.Prompt.Script.Syntax
/-!
# Reading the tree of a prompt script

A script is read from its tokens with one or two tokens of lookahead.
-/
namespace AuditShell.Prompt.Script

/-- A reader of tokens. -/
abbrev Reader := StateT (List Token) Option

namespace Reader

/-- The next token, which is not taken. -/
def peek : Reader (Option Token) := do return (← get).head?

/-- Takes the next token. -/
def next : Reader Token := do
  match ← get with
  | t :: ts => set ts; return t
  | [] => failure

/-- Takes the next token if it is the given one. -/
def accept (t : Token) : Reader Bool := do
  if (← peek) = some t then let _ ← next; return true else return false

/-- Takes the next token, which must be the given one. -/
def expect (t : Token) : Reader Unit := do if (← next) = t then return () else failure

/-- Whether the next token is the given one. -/
def sees (t : Token) : Reader Bool := do return (← peek) = some t

/-- A name. -/
def name : Reader Name := do
  match ← next with
  | .name n => return n
  | _ => failure

/-- Whether a list of expressions ends here. -/
def endsList : Reader Bool := do
  match ← peek with
  | none => return true
  | some .newline => return true
  | some (.op o) => return ["=", "\x7d", "]", ")", ";"].contains o
  | some _ => return false

/-- The operators of each level with their tokens, weakest first. The third level is `not`. -/
def levels : List (List (List Token × BinaryOp)) :=
  [[([.keyword "or"], .or)], [([.keyword "and"], .and)], [],
    [([.op "=="], .eq), ([.op "!="], .ne), ([.op "<"], .lt), ([.op ">"], .gt), ([.op "<="], .le), ([.op ">="], .ge),
      ([.keyword "in"], .isIn), ([.keyword "not", .keyword "in"], .notIn)],
    [([.op "|"], .bitOr)], [([.op "^"], .bitXor)], [([.op "&"], .bitAnd)],
    [([.op "<<"], .shiftLeft), ([.op ">>"], .shiftRight)], [([.op "+"], .add), ([.op "-"], .sub)],
    [([.op "*"], .mul), ([.op "%"], .mod), ([.op "/"], .div), ([.op "//"], .floorDiv)]]

/-- The level of `not`. -/
def notLevel : Nat := 2

/-- The level of comparisons, which do not chain. -/
def comparisonLevel : Nat := 3

/-- Takes an operator of a level. -/
def levelOp (level : Nat) : Reader (Option BinaryOp) := do
  let ts ← get
  match (levels[level]?.getD []).find? fun o => o.1.isPrefixOf ts with
  | some (spelling, op) => set (ts.drop spelling.length); return some op
  | none => return none

/-- The operators that stand before their operand. -/
def signs : List (Token × UnaryOp) := [(.op "-", .minus), (.op "+", .plus), (.op "~", .complement)]

mutual

/-- An expression without commas outside brackets. `cond` says that it may be a conditional one. -/
def test : (fuel : Nat) → (cond : Bool) → Reader (Expr Name)
  | 0, _ => failure
  | fuel + 1, cond => do
    if ← accept (.keyword "lambda") then
      let id := (← get).length
      let ps ← params fuel (.op ":") true
      expect (.op ":")
      return .lambda id 0 ps (← test fuel cond)
    let e ← binary fuel 0
    if cond then
      if ← accept (.keyword "if") then
        let c ← binary fuel 0
        expect (.keyword "else")
        return .conditional c e (← test fuel true)
    return e

/-- An expression of a level and above. -/
def binary : Nat → (level : Nat) → Reader (Expr Name)
  | 0, _ => failure
  | fuel + 1, level => do
    if level = levels.length then primary fuel
    else if level = notLevel then
      if ← accept (.keyword "not") then return .unary .not (← binary fuel notLevel)
      binary fuel (level + 1)
    else binaryRest fuel level (← binary fuel (level + 1))

/-- What follows the left operand at a level. -/
def binaryRest : Nat → (level : Nat) → Expr Name → Reader (Expr Name)
  | 0, _, _ => failure
  | fuel + 1, level, left => do
    match ← levelOp level with
    | none => return left
    | some op =>
      let e := Expr.binary op left (← binary fuel (level + 1))
      if level = comparisonLevel then
        match ← levelOp level with
        | some _ => failure
        | none => return e
      else binaryRest fuel level e

/-- An operand with what is applied to it. -/
def primary : Nat → Reader (Expr Name)
  | 0 => failure
  | fuel + 1 => do
    match (← peek).bind fun t => signs.lookup t with
    | some op =>
      let _ ← next
      return .unary op (← primary fuel)
    | none => suffixes fuel (← atom fuel)

/-- An operand by itself. -/
def atom : Nat → Reader (Expr Name)
  | 0 => failure
  | fuel + 1 => do
    match ← next with
    | .name n => return .var n
    | .int n => return .int n
    | .float d => return .float d
    | .string s => return .string s
    | .bytes s => return .bytes s
    | .op "(" =>
      if ← accept (.op ")") then return .tuple []
      let e ← exprList fuel true
      expect (.op ")")
      return e
    | .op "[" =>
      if ← accept (.op "]") then return .list []
      let e ← test fuel true
      if ← sees (.keyword "for") then return .listOf e (← clauses fuel (.op "]"))
      let es ← moreExprs fuel true
      expect (.op "]")
      return .list (e :: es)
    | .op "\x7b" =>
      if ← accept (.op "\x7d") then return .dict []
      let (k, v) ← entry fuel
      if ← sees (.keyword "for") then return .dictOf k v (← clauses fuel (.op "\x7d"))
      let es ← entries fuel
      expect (.op "\x7d")
      return .dict ((k, v) :: es)
    | _ => failure

/-- The entry of a dictionary. -/
def entry : Nat → Reader (Expr Name × Expr Name)
  | 0 => failure
  | fuel + 1 => do
    let k ← test fuel true
    expect (.op ":")
    return (k, ← test fuel true)

/-- The entries of a dictionary after the first. -/
def entries : Nat → Reader (List (Expr Name × Expr Name))
  | 0 => failure
  | fuel + 1 => do
    if ← accept (.op ",") then
      if ← sees (.op "\x7d") then return []
      let e ← entry fuel
      return e :: (← entries fuel)
    return []

/-- The clauses that build a list or dictionary, up to its closing bracket. -/
def clauses : Nat → (close : Token) → Reader (Clauses Name)
  | 0, _ => failure
  | fuel + 1, close => do
    if ← accept close then return []
    if ← accept (.keyword "for") then
      let target ← targets fuel
      expect (.keyword "in")
      let e ← binary fuel 0
      return (some target, e) :: (← clauses fuel close)
    expect (.keyword "if")
    let e ← test fuel false
    return (none, e) :: (← clauses fuel close)

/-- The targets of a loop. -/
def targets : Nat → Reader (Expr Name)
  | 0 => failure
  | fuel + 1 => do
    let e ← primary fuel
    if ← sees (.op ",") then return .tuple (e :: (← moreTargets fuel))
    return e

/-- The targets of a loop after the first. -/
def moreTargets : Nat → Reader (List (Expr Name))
  | 0 => failure
  | fuel + 1 => do
    if ← accept (.op ",") then
      if ← endsList then return []
      let e ← primary fuel
      return e :: (← moreTargets fuel)
    return []

/-- What is applied to an operand: attributes, indices, slices and calls. -/
def suffixes : Nat → Expr Name → Reader (Expr Name)
  | 0, _ => failure
  | fuel + 1, e => do
    match ← peek with
    | some (.op ".") =>
      let _ ← next
      suffixes fuel (.attribute e (← name))
    | some (.op "[") =>
      let _ ← next
      suffixes fuel (← subscript fuel e)
    | some (.op "(") =>
      let _ ← next
      let as ← arguments fuel true
      suffixes fuel (.call e as)
    | _ => return e

/-- What stands between the brackets of an index or slice. -/
def subscript : Nat → Expr Name → Reader (Expr Name)
  | 0, _ => failure
  | fuel + 1, e => do
    let lo ← if ← sees (.op ":") then pure none else some <$> exprList fuel false
    match lo with
    | some i => if ← accept (.op "]") then return .index e i
    | none => pure ()
    expect (.op ":")
    let hi ← if (← sees (.op ":")) || (← sees (.op "]")) then pure none else some <$> test fuel true
    let step ← if ← accept (.op ":") then
        if ← sees (.op "]") then pure none else some <$> test fuel true
      else pure none
    expect (.op "]")
    return .slice e lo hi step

/-- The arguments of a call up to the closing parenthesis. `first` says that none was read yet. -/
def arguments : Nat → (first : Bool) → Reader (List (ArgKind × Expr Name))
  | 0, _ => failure
  | fuel + 1, first => do
    if ← accept (.op ")") then return []
    if !first then expect (.op ",")
    if ← accept (.op ")") then return []
    match ← get with
    | .op "*" :: ts =>
      set ts
      let e ← test fuel true
      return (.star, e) :: (← arguments fuel false)
    | .op "**" :: ts =>
      set ts
      let e ← test fuel true
      return (.doubleStar, e) :: (← arguments fuel false)
    | .name n :: .op "=" :: ts =>
      set ts
      let e ← test fuel true
      return (.keyword n, e) :: (← arguments fuel false)
    | _ =>
      let e ← test fuel true
      return (.positional, e) :: (← arguments fuel false)

/-- The parameters of a function up to a closing token, which is not taken. `first` says that none
was read yet. -/
def params : Nat → (close : Token) → (first : Bool) → Reader (Params Name)
  | 0, _, _ => failure
  | fuel + 1, close, first => do
    if ← sees close then return []
    if !first then expect (.op ",")
    if ← sees (.op ")") then return []
    match ← get with
    | .op "*" :: .name n :: ts =>
      set ts
      return (.star, n, none) :: (← params fuel close false)
    | .op "*" :: ts =>
      set ts
      return (.bareStar, "", none) :: (← params fuel close false)
    | .op "**" :: ts =>
      set ts
      let n ← name
      return (.doubleStar, n, none) :: (← params fuel close false)
    | _ =>
      let n ← name
      let default ← if ← accept (.op "=") then some <$> test fuel true else pure none
      return (.plain, n, default) :: (← params fuel close false)

/-- One expression, or several with commas between them, which make a tuple. A comma at the end is
allowed between parentheses only. -/
def exprList : Nat → (trailing : Bool) → Reader (Expr Name)
  | 0, _ => failure
  | fuel + 1, trailing => do
    let e ← test fuel true
    if ← sees (.op ",") then return .tuple (e :: (← moreExprs fuel trailing))
    return e

/-- The expressions after the first. -/
def moreExprs : Nat → (trailing : Bool) → Reader (List (Expr Name))
  | 0, _ => failure
  | fuel + 1, trailing => do
    if ← accept (.op ",") then
      if ← endsList then if trailing then return [] else failure
      let e ← test fuel true
      return e :: (← moreExprs fuel trailing)
    return []

end

/-! ## Statements -/

/-- The assignments that change a value, with their operators. -/
def augmented : List (Token × BinaryOp) :=
  [(.op "+=", .add), (.op "-=", .sub), (.op "*=", .mul), (.op "/=", .div), (.op "//=", .floorDiv), (.op "%=", .mod),
    (.op "|=", .bitOr), (.op "&=", .bitAnd), (.op "^=", .bitXor), (.op "<<=", .shiftLeft), (.op ">>=", .shiftRight)]

/-- The names that a script is asked for, up to the closing parenthesis. Names that start with an
underscore are not given away. -/
def loadNames : (fuel : Nat) → Reader (List Name)
  | 0 => failure
  | fuel + 1 => do
    if ← accept (.op ")") then return []
    expect (.op ",")
    let named (n : Name) (source : Bytes) : Reader (List Name) := do
      if source.head?.all (· = 0x5F) then failure
      return n :: (← loadNames fuel)
    match ← next with
    | .op ")" => return []
    | .string s => named s.toString s
    | .name n =>
      expect (.op "=")
      match ← next with
      | .string s => named n s
      | _ => failure
    | _ => failure

mutual

/-- A statement without a block. -/
def simple : Nat → Reader (Stmt Name)
  | 0 => failure
  | fuel + 1 => do
    if ← accept (.keyword "pass") then return .pass
    if ← accept (.keyword "break") then return .break
    if ← accept (.keyword "continue") then return .continue
    if ← accept (.keyword "return") then
      match ← peek with
      | none => return .return none
      | some .newline => return .return none
      | some (.op ";") => return .return none
      | _ => return .return (some (← exprList fuel false))
    if ← accept (.keyword "load") then
      expect (.op "(")
      match ← next with
      | .string _ =>
        let ns ← loadNames fuel
        if ns.isEmpty then failure
        return .load ns
      | _ => failure
    let e ← exprList fuel false
    if ← accept (.op "=") then return .assign e (← exprList fuel false)
    match (← peek).bind fun t => augmented.lookup t with
    | some op =>
      let _ ← next
      return .augment op e (← exprList fuel false)
    | none => return .expr e

/-- Simple statements on one line. -/
def simpleLine : Nat → Reader (List (Stmt Name))
  | 0 => failure
  | fuel + 1 => do
    let s ← simple fuel
    if ← accept (.op ";") then
      match ← peek with
      | none => return [s]
      | some .newline => let _ ← next; return [s]
      | _ => return s :: (← simpleLine fuel)
    match ← peek with
    | none => return [s]
    | _ => expect .newline; return [s]

/-- A block: on the same line or indented below. -/
def suite : Nat → Reader (List (Stmt Name))
  | 0 => failure
  | fuel + 1 => do
    if ← accept .newline then
      expect .indent
      let ss ← statements fuel
      expect .dedent
      return ss
    simpleLine fuel

/-- What follows the block of a condition. -/
def otherwise : Nat → Reader (List (Stmt Name))
  | 0 => failure
  | fuel + 1 => do
    if ← accept (.keyword "elif") then
      let c ← test fuel true
      expect (.op ":")
      let yes ← suite fuel
      return [.if c yes (← otherwise fuel)]
    if ← accept (.keyword "else") then
      expect (.op ":")
      suite fuel
    else return []

/-- The statements on the next line. -/
def statement : Nat → Reader (List (Stmt Name))
  | 0 => failure
  | fuel + 1 => do
    if ← accept (.keyword "def") then
      let id := (← get).length
      let n ← name
      expect (.op "(")
      let ps ← params fuel (.op ")") true
      expect (.op ")")
      expect (.op ":")
      return [.define n n id 0 ps (← suite fuel)]
    if ← accept (.keyword "if") then
      let c ← test fuel true
      expect (.op ":")
      let yes ← suite fuel
      return [.if c yes (← otherwise fuel)]
    if ← accept (.keyword "for") then
      let target ← targets fuel
      expect (.keyword "in")
      let e ← exprList fuel false
      expect (.op ":")
      return [.for target e (← suite fuel)]
    simpleLine fuel

/-- The statements up to the end of a block or script. -/
def statements : Nat → Reader (List (Stmt Name))
  | 0 => failure
  | fuel + 1 => do
    match ← peek with
    | none => return []
    | some .dedent => return []
    | _ =>
      let s ← statement fuel
      return s ++ (← statements fuel)

end

/-- The statements of a whole script, between which newlines may stand. -/
def script : (fuel : Nat) → Reader (List (Stmt Name))
  | 0 => failure
  | fuel + 1 => do
    if (← get).isEmpty then return []
    if ← accept .newline then script fuel
    else
      let s ← statement fuel
      return s ++ (← script fuel)

end Reader

/-- The statements of a script, or nothing where it cannot be read. -/
def parse (source : Bytes) : Option (List (Stmt Name)) := do
  let ts ← scan source
  let (ss, _) ← (Reader.script (20 * ts.length + 40)).run ts
  return ss

end AuditShell.Prompt.Script
