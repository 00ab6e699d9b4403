import AuditShell.Token.Scan
import AuditShell.Tree
/-!
# Writing trees

Two written forms of a tree. `Tree.render` is a line that reads back as the tree wherever its words
can be quoted. `Tree.dump` shows one node a line, words as quoted literals.
-/
namespace AuditShell

/-- The characters for which a word is quoted when it is written. -/
def needsQuotes (c : Char) : Bool := isReserved c || c == ' ' || c == '\t' || c == '\r' || c == '\n'

/-- A word as it is written in a line. There is no escape, so a word that holds both quote
characters has no form that reads back. -/
def writeWord (w : Bytes) : Bytes :=
  if w.isEmpty then text "''"
  else if (Utf8.decode w).any needsQuotes then
    if w.elem 0x27 then text "\"" ++ w ++ text "\"" else text "'" ++ w ++ text "'"
  else w

/-- A redirect as it is written in a line. -/
def Redirect.render (r : Redirect) : Bytes := r.kind.name ++ text " " ++ writeWord r.path

/-- A command as it is written in a line. -/
def Command.render (c : Command) : Bytes :=
  Bytes.join (text " ") (c.words.map writeWord ++ c.redirects.map Redirect.render)

/-- A pipeline as it is written in a line. -/
def Pipeline.render (p : Pipeline) : Bytes := Bytes.join (text " | ") (p.map Command.render)

namespace Tree

/-- A tree as a line. -/
def render (t : Tree) : Bytes := Bytes.join (text "; ") (t.pipelines.map Pipeline.render)

/-- Two blanks a level. -/
def indent (depth : Nat) : Bytes := List.replicate (2 * depth) 0x20

/-- A redirect on a line of its own. -/
def dumpRedirect (depth : Nat) (r : Redirect) : Bytes :=
  indent depth ++ text "redirect " ++ r.kind.name ++ text " " ++ quoted r.path ++ text "\n"

/-- A command on a line of its own, its redirects below. -/
def dumpCommand (depth : Nat) (c : Command) : Bytes :=
  indent depth ++ text "command" ++ c.words.flatMap (fun w => text " " ++ quoted w) ++ text "\n" ++
    c.redirects.flatMap (dumpRedirect (depth + 1))

/-- A pipeline on a line of its own, its commands below. -/
def dumpPipeline (depth : Nat) (p : Pipeline) : Bytes :=
  indent depth ++ text "pipeline\n" ++ p.flatMap (dumpCommand (depth + 1))

/-- A tree with one node a line. -/
def dump : Tree → Bytes
  | pipeline p => dumpPipeline 0 p
  | sequence ps => text "sequence\n" ++ ps.flatMap (dumpPipeline 1)

/-- What stands for a tree that is missing. -/
def dumpMissing : Bytes := text "<nil>\n"

end Tree

end AuditShell
