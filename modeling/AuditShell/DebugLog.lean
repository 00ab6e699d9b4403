import AuditShell.Execute.Shell
import AuditShell.Text.Blank
/-!
# The debug log

Events of the journal as lines of keys and values. A value is quoted where it would not be read back
as one word.
-/
namespace AuditShell.DebugLog

/-- Whether a character forces quotes around a value. -/
def isAwkward (p : Utf8.Piece) : Bool :=
  match p with
  | .stray _ => true
  | .char c =>
    if c.toNat < 0x80 then c.toNat < 0x20 || c = ' ' || c = '=' || c = '"'
    else c = replacement || isBlank c || !isPrintable c

/-- A value as it is written. -/
def value (bs : Bytes) : Bytes :=
  if bs = [] ∨ (Utf8.pieces bs).any isAwkward then quoted bs else bs

/-- A line with a message and further keys. -/
def line (message : String) (attributes : List (String × Bytes)) : Bytes :=
  let pairs := ("level", text "DEBUG") :: ("msg", text message) :: attributes
  Bytes.join (text " ") (pairs.map fun (k, v) => text k ++ text "=" ++ value v) ++ text "\n"

/-- A list of words in brackets. -/
def words (ws : List Bytes) : Bytes := text "[" ++ Bytes.join (text " ") ws ++ text "]"

/-- The line for an event, if it is one that is logged. -/
def ofEvent : Event → Option Bytes
  | .dropped n => some (line "dropped stale interrupts" [("count", Bytes.ofNat n)])
  | .pipeline l => some (line "pipeline" [("commands", l)])
  | .opened _ r => some (line "redirect" [("kind", r.kind.name), ("path", r.path)])
  | .builtin n as => some (line "builtin" [("name", n), ("args", words as)])
  | .spawned p l => some (line "spawn" [("name", l.words.headD []), ("pid", Bytes.ofNat p)])
  | .interrupt s p => some (line "interrupt" [("signal", s.name), ("pid", Bytes.ofNat p)])
  | .cancelled p => some (line "cancelled" [("pid", Bytes.ofNat p), ("err", RuntimeCause.cancelled.words)])
  | .builtinFailed f => some (line "builtin failed" [("err", f.message)])
  | .pipelineInterrupted f => some (line "pipeline interrupted" [("err", f.message)])
  | .parsed l d => some (line "parsed" [("line", l), ("ast", d)])
  | .auditFailed e => some (line "audit log failed" [("err", e.message)])
  | _ => none

end AuditShell.DebugLog
