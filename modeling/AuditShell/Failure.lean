import AuditShell.Interrupts
import AuditShell.OsError
import AuditShell.Tree.Print
/-!
# Failures of a line

How running a line can fail. A usage failure of a builtin and an interrupt end only their pipeline;
every other failure ends the line. A failure can stand around others, and what a failure means to the
shell is looked for in all of them.
-/
namespace AuditShell

mutual

/-- How a pipeline fails. -/
inductive Failure where
  /-- A builtin was used wrongly. -/
  | usage (builtin detail : Bytes)
  /-- The pipeline was killed by an interrupt. -/
  | interrupted (signal : Option Signal)
  /-- An operation of the shell failed. -/
  | runtime (operation : Bytes) (cause : RuntimeCause)
  /-- The exit builtin ran and the exit hook came back. -/
  | exit (code : Int)
  /-- Anything else. -/
  | other (e : Fault)
  deriving DecidableEq, Repr

/-- Why an operation of the shell fails while a line runs. -/
inductive RuntimeCause where
  | emptyPipeline
  | nilSequence
  | unexpectedRoot
  | emptyCommand
  | malformedRedirect (r : Redirect)
  | os (e : OsError)
  | cancelled
  | other (e : Fault)
  deriving DecidableEq, Repr

/-- What somebody says about a failure: words, with the failures that they stand around in order. -/
inductive Fault where
  | plain (words : Bytes)
  | around (inner : Failure) (e : Fault)
  deriving DecidableEq, Repr

end

namespace Fault

/-- The words of a fault. -/
def words : Fault → Bytes
  | plain w => w
  | around _ e => e.words

/-- Words alone stand around nothing. -/
instance : Coe Bytes Fault := ⟨plain⟩

/-- A fault is shown by its words. -/
instance : CoeOut Fault Bytes := ⟨words⟩

end Fault

/-- The words for a cause. -/
def RuntimeCause.words : RuntimeCause → Bytes
  | .emptyPipeline => text "empty pipeline"
  | .nilSequence => text "nil sequence"
  | .unexpectedRoot => text "unexpected root node <nil>"
  | .emptyCommand => text "empty command"
  | .malformedRedirect r => text "malformed redirect " ++ r.kind.name ++ text " to " ++ quoted r.path
  | .os e => e.message
  | .cancelled => text "context canceled"
  | .other e => e.words

/-- The message of a failure. -/
def Failure.message : Failure → Bytes
  | .usage b d => b ++ text ": " ++ d
  | .interrupted none => text "interrupt"
  | .interrupted (some s) => text "interrupt: " ++ s.name
  | .runtime op c => text "runtime error: " ++ op ++ text ": " ++ c.words
  | .exit n => text "exit " ++ Bytes.ofInt n
  | .other e => e.words

mutual

/-- A failure and the failures that it stands around, each before those inside it. -/
def Failure.chain : Failure → List Failure
  | .runtime operation cause => .runtime operation cause :: cause.chain
  | .other e => .other e :: e.chain
  | f => [f]

/-- The failures that a cause stands around. -/
def RuntimeCause.chain : RuntimeCause → List Failure
  | .other e => e.chain
  | _ => []

/-- The failures that a fault stands around. -/
def Fault.chain : Fault → List Failure
  | .plain _ => []
  | .around f e => f.chain ++ e.chain

end

namespace Failure

/-- Whether a builtin was used wrongly. -/
def isUsage : Failure → Bool
  | usage _ _ => true
  | _ => false

/-- Whether the pipeline was killed by an interrupt. -/
def isInterrupted : Failure → Bool
  | interrupted _ => true
  | _ => false

/-- The code of an exit that came back. -/
def exit? : Failure → Option Int
  | exit n => some n
  | _ => none

/-- The code of the first exit that came back, in a failure or inside it. -/
def exitCode? (f : Failure) : Option Int := f.chain.findSome? exit?

end Failure

end AuditShell
