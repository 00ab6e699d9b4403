import AuditShell.Prompt.Script.Token
/-!
# Prompt scripts as trees

The expressions and statements of a script. A tree is read with names for its variables, and its
names are then replaced by the places at which the values are kept: `V` is what stands for a variable.
-/
namespace AuditShell.Prompt.Script

/-- An operator between two operands. -/
inductive BinaryOp where
  | or
  | and
  | eq
  | ne
  | lt
  | gt
  | le
  | ge
  | isIn
  | notIn
  | bitOr
  | bitXor
  | bitAnd
  | shiftLeft
  | shiftRight
  | add
  | sub
  | mul
  | mod
  | div
  | floorDiv
  deriving DecidableEq, Repr

/-- An operator before its operand. -/
inductive UnaryOp where
  | not
  | plus
  | minus
  | complement
  deriving DecidableEq, Repr

/-- How an argument is passed. -/
inductive ArgKind where
  | positional
  | keyword (n : Name)
  | star
  | doubleStar
  deriving DecidableEq, Repr

/-- How a parameter takes its argument. A bare star takes none: the parameters after it are passed by
name. -/
inductive ParamKind where
  | plain
  | bareStar
  | star
  | doubleStar
  deriving DecidableEq, Repr

/-- An expression. -/
inductive Expr (V : Type) where
  | var (v : V)
  | int (n : Nat)
  | float (d : Double)
  | string (s : Bytes)
  | bytes (s : Bytes)
  | list (es : List (Expr V))
  | tuple (es : List (Expr V))
  | dict (entries : List (Expr V × Expr V))
  | unary (op : UnaryOp) (e : Expr V)
  | binary (op : BinaryOp) (a b : Expr V)
  | conditional (test yes no : Expr V)
  | index (e i : Expr V)
  | slice (e : Expr V) (lo hi step : Option (Expr V))
  | attribute (e : Expr V) (n : Name)
  | call (f : Expr V) (args : List (ArgKind × Expr V))
  /-- A function without a name. The number tells apart the places at which functions are written, and
  `size` is the number of its variables. -/
  | lambda (id size : Nat) (params : List (ParamKind × Name × Option (Expr V))) (body : Expr V)
  /-- A list built by clauses: one with a target is a loop, one without is a condition. -/
  | listOf (element : Expr V) (clauses : List (Option (Expr V) × Expr V))
  /-- A dictionary built by clauses. -/
  | dictOf (key value : Expr V) (clauses : List (Option (Expr V) × Expr V))

/-- The parameters of a function, with the expressions of their defaults. -/
abbrev Params (V : Type) := List (ParamKind × Name × Option (Expr V))

/-- The clauses by which a list or dictionary is built. -/
abbrev Clauses (V : Type) := List (Option (Expr V) × Expr V)

/-- A statement. -/
inductive Stmt (V : Type) where
  | expr (e : Expr V)
  | assign (target value : Expr V)
  | augment (op : BinaryOp) (target value : Expr V)
  | return (e : Option (Expr V))
  | pass
  | break
  | continue
  | if (test : Expr V) (yes no : List (Stmt V))
  | for (target iterable : Expr V) (body : List (Stmt V))
  | define (v : V) (name : Name) (id size : Nat) (params : Params V) (body : List (Stmt V))
  /-- Takes names from another script, of which there is none. -/
  | load (names : List Name)

end AuditShell.Prompt.Script
