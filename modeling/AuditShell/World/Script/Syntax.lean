import AuditShell.World.Program
/-!
# The form of command scripts

What a script says once it has been read: words made of parts, redirects, and commands. A part says
whether it stood in quotes, because only the other parts are split into fields and matched against
the names of files.
-/
namespace AuditShell.World.Script

/-- What braces do with the value of a parameter. `empty` says that an empty value counts as missing. -/
inductive Use where
  | value
  | length
  /-- The word stands in for a missing value. -/
  | orWord (empty : Bool)
  /-- The word stands in for a missing value and becomes it. -/
  | orSet (empty : Bool)
  /-- A missing value ends the script with the word as the reason. -/
  | orFail (empty : Bool)
  /-- The word stands in for a present value. -/
  | thenWord (empty : Bool)
  /-- What the word matches is cut off at the front or at the end. -/
  | cut (front longest : Bool)
  /-- Braces that mean nothing. -/
  | bad
  deriving DecidableEq, Repr

/-- What a redirect does with its word. -/
inductive Redirection where
  | read
  | readWrite
  | write
  | append
  /-- The word is the number of another stream, or a dash that closes this one. -/
  | same
  /-- The text that the script holds under a number. -/
  | document (number : Nat)
  deriving DecidableEq, Repr

mutual

/-- A part of a word. -/
inductive Part where
  | literal (b : Bytes) (quoted : Bool)
  | parameter (name : Bytes) (use : Use) (word : List Part) (quoted : Bool)
  /-- What a command writes. -/
  | output (c : Command) (quoted : Bool)
  /-- The value of an expression. -/
  | sum (expression : List Part) (quoted : Bool)

/-- A redirect of a stream. -/
inductive Redirect where
  | mk (stream : Nat) (how : Redirection) (word : List Part)

/-- A command. -/
inductive Command where
  /-- Assignments, words and redirects, on a line of the script. -/
  | simple (line : Nat) (given : List (Bytes × List Part)) (words : List (List Part)) (redirects : List Redirect)
  | pipeline (stages : List Command)
  | negated (c : Command)
  | both (a b : Command)
  | either (a b : Command)
  | sequence (a b : Command)
  | background (c : Command)
  | subshell (c : Command)
  | redirected (c : Command) (redirects : List Redirect)
  /-- A condition, what is done where it holds, and what is done otherwise. -/
  | choice (condition yes : Command) (no : Option Command)
  /-- What is done as long as a condition holds, or as long as it does not. -/
  | loop (holds : Bool) (condition body : Command)
  /-- What is done for each of some words. -/
  | each (line : Nat) (name : Bytes) (words : List (List Part)) (body : Command)
  /-- What is done for the first list of patterns that a word matches. -/
  | select (word : List Part) (arms : List (List (List Part) × Option Command))
  | define (name : Bytes) (body : Command)

end

/-- A word. -/
abbrev Word := List Part

instance : Inhabited Command := ⟨.simple 0 [] [] []⟩

end AuditShell.World.Script
