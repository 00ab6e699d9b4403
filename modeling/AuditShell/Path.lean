import AuditShell.Text.Bytes
/-!
# Paths

The text of a path, without regard to what stands on a disk: names between slashes.
-/
namespace AuditShell.Path

/-- The byte between two names. -/
def slash : UInt8 := 0x2F

/-- Adds a name to the names of a path, given last name first. A `..` takes a name away where there is one,
and is dropped at the root. -/
def addName (rooted : Bool) (names : List Bytes) (name : Bytes) : List Bytes :=
  if name = [] ∨ name = text "." then names
  else if name = text ".." then
    match names with
    | last :: before => if last = text ".." then name :: names else before
    | [] => if rooted then [] else [name]
  else name :: names

/-- A path without needless parts: no empty or `.` names, and no name before a `..`. -/
def clean (path : Bytes) : Bytes :=
  let rooted := path.head? == some slash
  let names := ((path.splitOn slash).foldl (addName rooted) []).reverse
  let joined := Bytes.join [slash] names
  if rooted then slash :: joined else if joined = [] then text "." else joined

/-- The directory that a path is in. -/
def parent (path : Bytes) : Bytes := clean (path.reverse.dropWhile (· ≠ slash)).reverse

/-- The path through the parts in order. Empty parts at the beginning do not count. -/
def join (parts : List Bytes) : Bytes :=
  match parts.dropWhile (· = []) with
  | [] => []
  | rest => clean (Bytes.join [slash] rest)

end AuditShell.Path
