import AuditShell.Audit.Log
/-!
# A log in memory

One log file that is kept in memory. Each kind of request can be made to fail.
-/
namespace AuditShell.Audit

/-- Which requests fail. -/
structure Faults where
  makeParent : Bool := false
  read : Bool := false
  opening : Bool := false
  writing : Bool := false
  deriving DecidableEq, Repr

/-- A file in memory, or none yet, and the requests that fail. -/
structure MemoryLog where
  content : Option Bytes := none
  faults : Faults := {}
  deriving DecidableEq, Repr

namespace MemoryLog

/-- What a request that is made to fail fails with. -/
def injected : OsError := .other (text "injected")

/-- Requests about the file. A failed write leaves an empty file where there was none. -/
def store : LogStore MemoryLog where
  makeParent _ m := (if m.faults.makeParent then some injected else none, m)
  read path m :=
    if m.faults.read then .error injected
    else match m.content with
      | none => .error (.path (text "open") path .absent)
      | some c => .ok c
  append _ t m :=
    if m.faults.opening then (some (.opening injected), m)
    else if m.faults.writing then
      (some (.writing injected), { m with content := some (m.content.getD []) })
    else (none, { m with content := some (m.content.getD [] ++ t) })

end MemoryLog

end AuditShell.Audit
