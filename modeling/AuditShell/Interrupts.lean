import AuditShell.Text.Bytes
/-!
# The interrupt slot

The shell learns of an interrupt through a slot that holds at most one signal. A sender never
blocks: a signal that finds the slot full is not delivered. A missing handle never holds anything.
-/
namespace AuditShell

/-- The signals that can be delivered. -/
inductive Signal where
  | interrupt
  | terminated
  | hangup
  deriving DecidableEq, Repr

/-- How a signal is called. -/
def Signal.name : Signal → Bytes
  | .interrupt => text "interrupt"
  | .terminated => text "terminated"
  | .hangup => text "hangup"

/-- A handle on the slot: missing, or with what the slot holds. -/
inductive Interrupts where
  | missing
  | slot (pending : Option Signal)
  deriving DecidableEq, Repr

namespace Interrupts

/-- A handle with an empty slot. -/
def new : Interrupts := .slot none

/-- The signal in the slot. -/
def pending? : Interrupts → Option Signal
  | .missing => none
  | .slot p => p

/-- Delivers a signal if there is room for it, and says whether there was. -/
def send (s : Signal) : Interrupts → Bool × Interrupts
  | .missing => (false, .missing)
  | .slot none => (true, .slot (some s))
  | .slot (some t) => (false, .slot (some t))

/-- Takes the signal out of the slot. -/
def receive : Interrupts → Option Signal × Interrupts
  | .missing => (none, .missing)
  | .slot p => (p, .slot none)

/-- Empties the slot and counts what was dropped. -/
def drain : Interrupts → Nat × Interrupts
  | .missing => (0, .missing)
  | .slot none => (0, .slot none)
  | .slot (some _) => (1, .slot none)

end Interrupts

end AuditShell
