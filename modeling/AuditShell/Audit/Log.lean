import AuditShell.Audit.Chain
import AuditShell.OsError
/-!
# The audit log

A log is a file with one entry a line. `Logger.new` resumes the chain after the last entry,
`Logger.log` appends an entry and moves on only when it is stored. `Log.verify` finds the first line
that does not continue the chain, `Log.tail` gives the last entries that can be read.

The file is reached through `LogStore`, whose requests may fail. Where a line is no entry, or an entry
cannot be written as one, a message says which step failed, and leaves out what the JSON reader or writer
has to say about the text (`LogError.message`, `ChainError.reason`).
-/
namespace AuditShell.Audit

/-- The ways in which appending to a file can fail. -/
inductive AppendError where
  | opening (e : OsError)
  | writing (e : OsError)
  deriving DecidableEq, Repr

/-- Where logs are kept: requests about the file at a path. -/
structure LogStore (σ : Type) where
  /-- Makes the directory that the file is in. -/
  makeParent : Bytes → σ → Option OsError × σ
  /-- The content of the file. -/
  read : Bytes → σ → Except OsError Bytes
  /-- Adds a text at the end of the file, which is made if it is missing. -/
  append : Bytes → Bytes → σ → Option AppendError × σ

/-- Why a log cannot be opened, read or written. -/
inductive LogError where
  | makeParent (e : OsError)
  | reading (e : OsError)
  | resuming (path : Bytes)
  | encoding
  | appending (e : AppendError)
  deriving DecidableEq, Repr

/-- The message of a failure. -/
def LogError.message : LogError → Bytes
  | .makeParent e => text "create audit dir: " ++ e.message
  | .reading e => text "read audit log: " ++ e.message
  | .resuming p => text "resume audit log " ++ p
  | .encoding => text "marshal audit entry"
  | .appending (.opening e) => text "open audit log: " ++ e.message
  | .appending (.writing e) => text "write audit entry: " ++ e.message

/-- The first line that does not continue the chain. -/
structure ChainError where
  line : Nat
  /-- Nothing where the line is no entry at all. -/
  mismatch : Option Mismatch
  deriving DecidableEq, Repr

namespace ChainError

/-- Why the line does not continue the chain. -/
def reason (e : ChainError) : Bytes :=
  match e.mismatch with
  | none => text "invalid JSON"
  | some m => m.words

/-- The message of a chain error. -/
def message (e : ChainError) : Bytes := text "line " ++ Bytes.ofNat e.line ++ text ": " ++ e.reason

end ChainError

namespace Log

/-- The lines of a log that are not empty. -/
def records (content : Bytes) : List Bytes := (content.splitOn 0x0A).filter (· ≠ [])

/-- Follows the chain through lines, the first of which has the given number. -/
def verifyFrom (hash : Hash) : (line : Nat) → Chain → List Bytes → Except ChainError Chain
  | _, c, [] => .ok c
  | n, c, l :: ls =>
    match Entry.decode l with
    | none => .error ⟨n, none⟩
    | some e =>
      match c.check hash e with
      | some m => .error ⟨n, some m⟩
      | none => verifyFrom hash (n + 1) (.advance e) ls

/-- Follows the chain through a log. -/
def verify (hash : Hash) (content : Bytes) : Except ChainError Chain :=
  verifyFrom hash 1 (.start hash) (records content)

/-- The entries of a log, lines that are no entries left out. -/
def entries (content : Bytes) : List Entry := (records content).filterMap Entry.decode

/-- The last `n` entries of a log, or all of them where `n` is not positive. -/
def tail (content : Bytes) (n : Int) : List Entry :=
  let es := entries content
  if n ≤ 0 then es else es.drop (es.length - n.toNat)

/-- The position after the last line of a log; nothing where that line is no entry. -/
def resume (hash : Hash) (content : Bytes) : Option Chain :=
  match (records content).getLast? with
  | none => some (.start hash)
  | some l => (Entry.decode l).map .advance

end Log

/-- A writer at the end of a log. -/
structure Logger where
  path : Bytes
  chain : Chain
  deriving DecidableEq, Repr

namespace Logger

variable {σ : Type} (store : LogStore σ) (hash : Hash)

/-- A writer at the end of the log at a path. A missing log is an empty one. -/
def new (path : Bytes) (s : σ) : Except LogError Logger × σ :=
  match store.makeParent path s with
  | (some e, s) => (.error (.makeParent e), s)
  | (none, s) =>
    match store.read path s with
    | .error e => (if e.isMissing then .ok ⟨path, .start hash⟩ else .error (.reading e), s)
    | .ok content =>
      match Log.resume hash content with
      | none => (.error (.resuming path), s)
      | some c => (.ok ⟨path, c⟩, s)

/-- Appends a record. The writer moves on only when the entry is stored. -/
def log (l : Logger) (r : Record) (now : Instant) (s : σ) : Except LogError Logger × σ :=
  let e := l.chain.link hash (.ofRecord r now)
  match e.encode with
  | none => (.error .encoding, s)
  | some line =>
    match store.append l.path (line ++ [0x0A]) s with
    | (some f, s) => (.error (.appending f), s)
    | (none, s) => (.ok { l with chain := .advance e }, s)

end Logger

namespace Log

variable {σ : Type} (store : LogStore σ) (hash : Hash)

/-- What is wrong with a stored log. -/
inductive Fault where
  | log (e : LogError)
  | chain (e : ChainError)
  deriving DecidableEq, Repr

/-- The message of a fault. -/
def Fault.message : Fault → Bytes
  | .log e => e.message
  | .chain e => e.message

/-- What is wrong with the log at a path. -/
def verifyAt (path : Bytes) (s : σ) : Option Fault :=
  match store.read path s with
  | .error e => some (.log (.reading e))
  | .ok content =>
    match verify hash content with
    | .error e => some (.chain e)
    | .ok _ => none

/-- The last entries of the log at a path. -/
def tailAt (path : Bytes) (n : Int) (s : σ) : Except LogError (List Entry) :=
  match store.read path s with
  | .error e => .error (.reading e)
  | .ok content => .ok (tail content n)

end Log

end AuditShell.Audit
