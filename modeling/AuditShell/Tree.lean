import AuditShell.Token
/-!
# Command trees

A line runs one pipeline or a sequence of at least two. A pipeline is a chain of commands, and a
command is a program name with arguments and redirects. Of several redirects in one direction the
last one counts.
-/
namespace AuditShell

/-- Which stream a redirect replaces and how its file is opened. Kinds beyond the three known ones
are kept by number. -/
inductive Redirect.Kind where
  | input
  | output
  | append
  | other (n : Int)
  deriving DecidableEq, Repr

namespace Redirect.Kind

/-- The kind with the given number. -/
def ofInt (n : Int) : Redirect.Kind :=
  if n = 0 then .input else if n = 1 then .output else if n = 2 then .append else .other n

/-- The number of a kind. -/
def toInt : Redirect.Kind → Int
  | .input => 0
  | .output => 1
  | .append => 2
  | .other n => n

/-- How a kind is written. -/
def name : Redirect.Kind → Bytes
  | .input => text "<"
  | .output => text ">"
  | .append => text ">>"
  | .other n => text "redirect(" ++ Bytes.ofInt n ++ text ")"

/-- Whether the kind replaces the standard output. -/
def isOutput : Redirect.Kind → Bool
  | .output => true
  | .append => true
  | _ => false

/-- Whether the kind is one of the three known ones. -/
def isKnown : Redirect.Kind → Bool
  | .other _ => false
  | _ => true

end Redirect.Kind

/-- A file in place of a command's standard input or output. -/
structure Redirect where
  kind : Redirect.Kind
  path : Bytes
  deriving DecidableEq, Repr

/-- A program name, its arguments and its redirects. -/
structure Command where
  words : List Bytes
  redirects : List Redirect
  deriving DecidableEq, Repr

namespace Command

/-- The program name, empty where a command has no words. -/
def name (c : Command) : Bytes := c.words.headD []

/-- The words after the program name. -/
def args (c : Command) : List Bytes := c.words.tail

/-- The last redirect of the standard input. -/
def input? (c : Command) : Option Redirect := c.redirects.reverse.find? (·.kind = .input)

/-- The last redirect of the standard output. -/
def output? (c : Command) : Option Redirect := c.redirects.reverse.find? (·.kind.isOutput)

end Command

/-- Commands chained from standard output to standard input. -/
abbrev Pipeline := List Command

/-- What a line runs. -/
inductive Tree where
  | pipeline (p : Pipeline)
  | sequence (ps : List Pipeline)
  deriving DecidableEq, Repr

namespace Tree

/-- The pipelines in the order in which they run. -/
def pipelines : Tree → List Pipeline
  | pipeline p => [p]
  | sequence ps => ps

/-- The tree of a list of pipelines: one pipeline stands for itself. -/
def ofPipelines : List Pipeline → Tree
  | [p] => .pipeline p
  | ps => .sequence ps

/-- The program names of all commands in order. -/
def names (t : Tree) : List Bytes := t.pipelines.flatMap fun p => p.map Command.name

end Tree

end AuditShell
