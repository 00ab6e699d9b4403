import AuditShell.Audit.Entry
import AuditShell.Digest
/-!
# The chain of entries

Each entry carries the number and the digest of the entry before it. A chain is a position at the
end of a log: the last number and the last digest. `Chain.link` makes an entry the next one,
`Chain.check` says why an entry cannot be the next one. The digest function is a parameter.
-/
namespace AuditShell.Audit

/-- A digest function: from a text to the text of its digest. -/
abbrev Hash := Bytes → Bytes

/-- The position at the end of a log. -/
structure Chain where
  seq : UInt64
  head : Bytes
  deriving DecidableEq, Repr

/-- Why an entry cannot follow a position. -/
inductive Mismatch where
  | sequence (expected found : UInt64)
  | previous (expected found : Bytes)
  | digest (expected found : Bytes)
  deriving DecidableEq, Repr

/-- The first sixteen bytes of a digest. -/
def shorten (h : Bytes) : Bytes := if h.length ≤ 16 then h else h.take 16 ++ text "..."

/-- The words for a mismatch. -/
def Mismatch.words : Mismatch → Bytes
  | .sequence e f =>
    text "sequence gap: expected " ++ Bytes.ofNat e.toNat ++ text ", got " ++ Bytes.ofNat f.toNat
  | .previous e f => text "prev_hash mismatch: expected " ++ shorten e ++ text ", got " ++ shorten f
  | .digest e f => text "hash mismatch: expected " ++ shorten e ++ text ", got " ++ shorten f

/-- The text over which the digest of an entry is taken: the entry with an empty digest, and nothing
where it cannot be written. -/
def Entry.digested (e : Entry) : Bytes := ({ e with hash := [] }.encode).getD []

namespace Chain

variable (hash : Hash)

/-- The position before the first entry. -/
def start : Chain := ⟨0, hash (text "crsh-genesis")⟩

/-- The digest of an entry. -/
def digest (e : Entry) : Bytes := hash e.digested

/-- The entry made the next one after a position. -/
def link (c : Chain) (e : Entry) : Entry :=
  let e' := { e with seq := c.seq + 1, prevHash := c.head }
  { e' with hash := digest hash e' }

/-- Why an entry cannot follow a position; nothing where it can. -/
def check (c : Chain) (e : Entry) : Option Mismatch :=
  if e.seq ≠ c.seq + 1 then some (.sequence (c.seq + 1) e.seq)
  else if e.prevHash ≠ c.head then some (.previous c.head e.prevHash)
  else if e.hash ≠ digest hash e then some (.digest (digest hash e) e.hash)
  else none

/-- The position after an entry. -/
def advance (e : Entry) : Chain := ⟨e.seq, e.hash⟩

end Chain

end AuditShell.Audit
