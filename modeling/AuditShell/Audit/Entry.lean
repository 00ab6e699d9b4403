import AuditShell.Instant
import AuditShell.Json.Parse
import AuditShell.Number.Double
import AuditShell.Number.Word
/-!
# Log entries

An entry is one line of the audit log: a JSON object. `Entry.encode` writes it, `Entry.decode` reads
it back. Reading takes members by name, exactly or up to letter case, ignores unknown ones, and lets
a later member of the same name overwrite an earlier one.
-/
namespace AuditShell.Audit

/-- What the shell knows about a line that has run. -/
structure Record where
  line : Bytes
  commands : Option (List Bytes)
  outcome : Bytes
  exitCode : Int
  error : Option Bytes
  /-- How long the line took, in nanoseconds. -/
  nanos : Int
  cwd : Bytes
  deriving DecidableEq, Repr

/-- One line of the log. -/
structure Entry where
  seq : UInt64 := 0
  time : Instant := .unset
  prevHash : Bytes := []
  line : Bytes := []
  commands : Option (List Bytes) := none
  outcome : Bytes := []
  exitCode : Int := 0
  error : Bytes := []
  duration : Double := .zero false
  cwd : Bytes := []
  hash : Bytes := []
  deriving DecidableEq, Repr

namespace Entry

/-- The entry of a record before it is linked to a chain. -/
def ofRecord (r : Record) (now : Instant) : Entry where
  time := { now with offset := 0 }
  line := r.line
  commands := r.commands
  outcome := r.outcome
  exitCode := r.exitCode
  error := r.error.getD []
  duration := .ofMicros (Int.tdiv r.nanos 1000)
  cwd := r.cwd

/-! ## Writing -/

/-- The entry as a JSON object; nothing where its time cannot be written. An empty error is left
out. -/
def toJson (e : Entry) : Option Json.Value := do
  let time ← e.time.render
  let commands := match e.commands with
    | none => .null
    | some cs => .array (cs.map .string)
  return .object ([
    (text "seq", .number (Bytes.ofNat e.seq.toNat)),
    (text "ts", .string time),
    (text "prev_hash", .string e.prevHash),
    (text "line", .string e.line),
    (text "commands", commands),
    (text "outcome", .string e.outcome),
    (text "exit_code", .number (Bytes.ofInt e.exitCode))] ++
    (if e.error = [] then [] else [(text "error", .string e.error)]) ++ [
    (text "duration_ms", .number e.duration.render),
    (text "cwd", .string e.cwd),
    (text "hash", .string e.hash)])

/-- The text of an entry. -/
def encode (e : Entry) : Option Bytes := e.toJson.map Json.Value.compact

/-- The text of an entry with one member a line. -/
def encodeIndented (e : Entry) : Option Bytes := e.toJson.map Json.Value.indented

/-! ## Reading -/

/-- The fields of an entry. -/
inductive Field where
  | seq | time | prevHash | line | commands | outcome | exitCode | error | duration | cwd | hash
  deriving DecidableEq, Repr

/-- The fields with their names. -/
def Field.all : List (List Char × Field) :=
  [("seq".toList, .seq), ("ts".toList, .time), ("prev_hash".toList, .prevHash), ("line".toList, .line),
    ("commands".toList, .commands), ("outcome".toList, .outcome), ("exit_code".toList, .exitCode),
    ("error".toList, .error), ("duration_ms".toList, .duration), ("cwd".toList, .cwd),
    ("hash".toList, .hash)]

/-- A character up to letter case. The long s counts as an s. -/
def foldCase (c : Char) : Char := if c = 'ſ' then 's' else c.toLower

/-- The field with a name: exactly, or else up to letter case. -/
def Field.ofName (name : List Char) : Option Field :=
  match Field.all.find? (·.1 = name) with
  | some f => some f.2
  | none => (Field.all.find? (·.1 = name.map foldCase)).map (·.2)

/-- The natural number that a list of digits says. -/
def decimalValue (ds : List Char) : Nat := ds.foldl (fun n c => 10 * n + (c.toNat - 48)) 0

/-- The natural number that a text says, unless it is empty or holds other characters than digits. -/
def natural? (cs : List Char) : Option Nat :=
  if cs ≠ [] ∧ cs.all Json.isDigit then some (decimalValue cs) else none

/-- A number without sign, fraction and exponent that fits into 64 bits. -/
def unsigned? (cs : List Char) : Option UInt64 :=
  match natural? cs with
  | some n => if n < Word.count then some n.toUInt64 else none
  | none => none

/-- A number without fraction and exponent that fits into 64 bits with a sign. -/
def signed? (cs : List Char) : Option Int :=
  match cs with
  | '-' :: ds =>
    match natural? ds with
    | some n => if n ≤ Word.half then some (-(n : Int)) else none
    | none => none
  | _ =>
    match natural? cs with
    | some n => if n < Word.half then some n else none
    | none => none

/-- The digits and the power of ten of an unsigned number text. -/
def scientific (cs : List Char) : Nat × Int :=
  let mantissa := cs.takeWhile fun c => c ≠ 'e' ∧ c ≠ 'E'
  let exponent := (cs.drop mantissa.length).drop 1
  let whole := mantissa.takeWhile (· ≠ '.')
  let frac := (mantissa.drop whole.length).drop 1
  let e : Int := match exponent with
    | '-' :: ds => -(decimalValue ds : Int)
    | '+' :: ds => decimalValue ds
    | ds => decimalValue ds
  (decimalValue (whole ++ frac), e - frac.length)

/-- The number that a number text says, unless it is too large. -/
def double? (cs : List Char) : Option Double :=
  match cs with
  | '-' :: ds => let (n, e) := scientific ds; Double.ofDecimal true n e
  | _ => let (n, e) := scientific cs; Double.ofDecimal false n e

/-- An entry that is being read. `slots` holds every command that was read so far, also where a
later, shorter list has hidden it. -/
structure Draft where
  entry : Entry := {}
  slots : List Bytes := []
  deriving DecidableEq, Repr

/-- The elements of a list of commands on top of the slots of an earlier one: `null` keeps what is
there. -/
def overwrite : (slots : List Bytes) → List Json.Value → Option (List Bytes)
  | _, [] => some []
  | slots, v :: vs => do
    let s ← match v with
      | .null => some (slots.headD [])
      | .string s => some s
      | _ => none
    return s :: (← overwrite slots.tail vs)

/-- A list of commands read on top of an earlier one. An empty list forgets what was there. -/
def readCommands (slots : List Bytes) (vs : List Json.Value) : Option (List Bytes × List Bytes) := do
  let new ← overwrite slots vs
  return (new, if vs.isEmpty then [] else new ++ slots.drop new.length)

/-- One member read into an entry; nothing where its value has the wrong form. -/
def readMember (d : Draft) (m : Bytes × Json.Value) : Option Draft :=
  let e := d.entry
  match Field.ofName (Utf8.decode m.1) with
  | none => some d
  | some field =>
    match field, m.2 with
    | .commands, .null => some { d with entry := { e with commands := none }, slots := [] }
    | _, .null => some d
    | .commands, .array vs =>
      (readCommands d.slots vs).map fun s => { d with entry := { e with commands := some s.1 }, slots := s.2 }
    | .seq, .number t => (unsigned? (Utf8.decode t)).map fun n => { d with entry := { e with seq := n } }
    | .exitCode, .number t => (signed? (Utf8.decode t)).map fun n => { d with entry := { e with exitCode := n } }
    | .duration, .number t => (double? (Utf8.decode t)).map fun x => { d with entry := { e with duration := x } }
    | .time, .string s => (Instant.parse (Utf8.decode s)).map fun t => { d with entry := { e with time := t } }
    | .prevHash, .string s => some { d with entry := { e with prevHash := s } }
    | .line, .string s => some { d with entry := { e with line := s } }
    | .outcome, .string s => some { d with entry := { e with outcome := s } }
    | .error, .string s => some { d with entry := { e with error := s } }
    | .cwd, .string s => some { d with entry := { e with cwd := s } }
    | .hash, .string s => some { d with entry := { e with hash := s } }
    | _, _ => none

/-- The entry that a JSON value says. `null` says nothing about any field. -/
def ofJson : Json.Value → Option Entry
  | .null => some {}
  | .object ms => (ms.foldlM readMember {}).map Draft.entry
  | _ => none

/-- The entry that a text says. -/
def decode (t : Bytes) : Option Entry :=
  match Json.Value.parse t with
  | some v => ofJson v
  | none => none

end Entry

end AuditShell.Audit
