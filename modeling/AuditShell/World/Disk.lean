import AuditShell.OsError
/-!
# A disk

A tree of directories and files, and how the text of a path leads to a place in it.
-/
namespace AuditShell.World

/-- A place in the tree: the names from the root on. -/
abbrev Place := List Bytes

/-- What stands at a place. -/
inductive Node where
  | file (content : Bytes) (executable : Bool)
  | dir
  deriving DecidableEq, Repr

/-- The tree: every place but the root with what stands there. -/
structure Disk where
  nodes : List (Place × Node) := []
  deriving DecidableEq, Repr

/-- The text of a place. -/
def Place.render (p : Place) : Bytes := if p.isEmpty then text "/" else p.flatMap fun n => text "/" ++ n

namespace Disk

/-- What stands at a place. -/
def node? (d : Disk) (p : Place) : Option Node :=
  if p.isEmpty then some .dir else (d.nodes.find? (·.1 = p)).map (·.2)

/-- Puts something at a place. -/
def put (d : Disk) (p : Place) (n : Node) : Disk :=
  if d.nodes.any (·.1 = p) then ⟨d.nodes.map fun x => if x.1 = p then (p, n) else x⟩
  else ⟨d.nodes ++ [(p, n)]⟩

/-- Makes a directory and those above it, as far as they are missing. -/
def makeDirs (d : Disk) (p : Place) : Disk :=
  (List.range (p.length + 1)).foldl (fun d i =>
    let q := p.take i
    if (d.node? q).isSome then d else d.put q .dir) d

/-- Puts a file at a place and makes the directories above it. -/
def addFile (d : Disk) (p : Place) (content : Bytes) (executable : Bool) : Disk :=
  (d.makeDirs p.dropLast).put p (.file content executable)

/-- The content of the file at a place. -/
def content? (d : Disk) (p : Place) : Option Bytes :=
  match d.node? p with
  | some (.file c _) => some c
  | _ => none

/-- The names in a directory. -/
def names (d : Disk) (p : Place) : List Bytes :=
  ((d.nodes.filter fun x => x.1.length = p.length + 1 ∧ p.isPrefixOf x.1).filterMap (·.1.getLast?)).mergeSort
    Bytes.le

end Disk

/-- Where a path leads. -/
inductive Target where
  | dir (p : Place)
  | file (p : Place) (content : Bytes) (executable : Bool)
  /-- Nothing stands there, but the directory above it does. `slash` says that the path ends in one. -/
  | missing (p : Place) (slash : Bool)
  deriving DecidableEq, Repr

namespace Disk

/-- Follows names from a directory on. -/
def walk (d : Disk) : (at' : Place) → List Bytes → Except OsError.Cause Target
  | cur, [] => .ok (.dir cur)
  | cur, c :: rest =>
    if c = [] ∨ c = text "." then walk d cur rest
    else if c = text ".." then walk d cur.dropLast rest
    else if 255 < c.length then .error .nameTooLong
    else
      match d.node? (cur ++ [c]) with
      | some .dir => walk d (cur ++ [c]) rest
      | some (.file content x) =>
        if rest.isEmpty then .ok (.file (cur ++ [c]) content x) else .error .notDirectory
      | none =>
        if rest.isEmpty then .ok (.missing (cur ++ [c]) false)
        else if rest.all (· = []) then .ok (.missing (cur ++ [c]) true)
        else .error .notFound

/-- Where the text of a path leads from a working directory. -/
def resolve (d : Disk) (cwd : Place) (path : Bytes) : Except OsError.Cause Target :=
  if path = [] then .error .notFound
  else if path.elem 0 then .error .invalidArgument
  else if 4096 ≤ path.length then .error .nameTooLong
  else d.walk (if path.head? = some 0x2F then [] else cwd) (path.splitOn 0x2F)

end Disk

end AuditShell.World
