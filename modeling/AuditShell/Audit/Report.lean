import AuditShell.Audit.Log
/-!
# Reports on the audit log

What the audit commands print and the status they end with.
-/
namespace AuditShell.Audit.Log

variable {σ : Type} (store : LogStore σ) (hash : Hash)

/-- How many entries are shown unless another number is asked for. -/
def defaultTail : Int := 20

/-- The status and output of checking the log at a path. -/
def verifyReport (path : Bytes) (s : σ) : Int × Bytes :=
  match verifyAt store hash path s with
  | some f => (1, text "audit verification FAILED: " ++ f.message ++ text "\n")
  | none => (0, text "audit log integrity verified\n")

/-- The status and output of showing the last entries of the log at a path. -/
def tailReport (path : Bytes) (n : Int) (s : σ) : Int × Bytes :=
  match tailAt store path n s with
  | .error e => (1, text "crsh audit: " ++ e.message ++ text "\n")
  | .ok [] => (0, text "no audit entries\n")
  | .ok es => (0, es.flatMap fun e => e.encodeIndented.getD [] ++ text "\n")

end AuditShell.Audit.Log
