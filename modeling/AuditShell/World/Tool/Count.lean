import AuditShell.World.Options
/-!
# Counting

`wc` counts lines, words and bytes, and measures the widest line.
-/
namespace AuditShell.World.Tool

open Program

/-- The number of words: runs of bytes between blanks. -/
def countWords : (inside : Bool) → Bytes → Nat
  | _, [] => 0
  | inside, b :: bs =>
    if b = 0x20 || (0x09 ≤ b && b ≤ 0x0D) then countWords false bs
    else (if inside then 0 else 1) + countWords true bs

/-- A number right-aligned in a width. -/
def padded (width : Nat) (n : Nat) : Bytes :=
  let d := Bytes.ofNat n
  List.replicate (width - d.length) 0x20 ++ d

/-- The width of the widest line: tabs go on to the next multiple of eight, and what is not printed takes no
room. -/
def widest : (best column : Nat) → Bytes → Nat
  | best, column, [] => max best column
  | best, column, b :: bs =>
    if b = 0x0A || b = 0x0D || b = 0x0C then widest (max best column) 0 bs
    else if b = 0x09 then widest best (column + 8 - column % 8) bs
    else widest best (if Quote.isPrintable b then column + 1 else column) bs

/-- Lines, words and bytes, and the width of the widest line. -/
structure Counts where
  lines : Nat := 0
  words : Nat := 0
  bytes : Nat := 0
  width : Nat := 0
  deriving DecidableEq, Repr

/-- The counts of a text. -/
def Counts.of (b : Bytes) : Counts := ⟨b.count 0x0A, countWords false b, b.length, widest 0 0 b⟩

/-- The counts of two texts together. -/
def Counts.add (a b : Counts) : Counts :=
  ⟨a.lines + b.lines, a.words + b.words, a.bytes + b.bytes, max a.width b.width⟩

/-- The counts that the options ask for. -/
def Counts.wanted (c : Counts) (u : Usage) : List Nat :=
  let all := ["c", "l", "L", "m", "w"].all fun k => !u.has k
  (if all || u.has "l" then [c.lines] else []) ++ (if all || u.has "w" then [c.words] else []) ++
    (if u.has "m" then [c.bytes] else []) ++ (if all || u.has "c" then [c.bytes] else []) ++
    (if u.has "L" then [c.width] else [])

/-- When the counts of all operands together are written. -/
inductive Totals where
  /-- Where there is more than one operand. -/
  | auto
  | always
  /-- Without those of each operand. -/
  | only
  | never
  deriving DecidableEq, Repr

/-- What an operand of `wc` is: the counts of what can be read, with the size where it is a file. -/
structure Counted where
  name : Bytes
  counts : Except OsError.Cause Counts
  /-- The size of a file; none for what is no file. -/
  size : Option Nat

/-- What an operand of `wc` is. -/
def counted (e : Surroundings) (o : Bytes × Except OsError.Cause Flow) : Counted :=
  let regular := o.1 ≠ text "-" || (match e.stdin with
    | .flow _ r => r.isSome
    | .dir => false)
  match o.2 with
  | .error c => ⟨o.1, .error c, none⟩
  | .ok f => ⟨o.1, .ok (.of f.bytes), if regular then some f.bytes.length else none⟩

/-- The width of the counts: that of the sizes together, and at least seven where there is something
that is no file. -/
def countWidth (u : Usage) (inputs : List Counted) : Nat :=
  if inputs.length = 1 && (Counts.wanted {} u).length = 1 then 0
  else
    let present := inputs.filter fun i => match i.counts with
      | .ok _ => true
      | .error c => c = .isDirectory
    let total := present.foldl (fun n i => n + i.size.getD 0) 0
    max (Bytes.ofNat total).length (if present.any (·.size.isNone) then 7 else 1)

/-- The options of `wc`. -/
def wcOptions : Options where
  bare := "clLmw"
  long := [.bare "bytes" "c", .bare "chars" "m", .bare "lines" "l", .bare "words" "w", .bare "max-line-length" "L",
    .valued "total" "total"] ++ Options.common

/-- When the options ask for totals. -/
def totals (u : Usage) : Except Bytes Totals :=
  u.given.foldlM (fun t g =>
    if g.1 = "total" then
      Options.choose "--total" [("auto", Totals.auto), ("always", .always), ("only", .only), ("never", .never)]
        (g.2.getD [])
    else .ok t) .auto

/-- Counts lines, words and bytes. -/
def wc (e : Surroundings) (args : List Bytes) : Outcome :=
  let u := wcOptions.read args
  match totals u, u.fault with
  | .error d, _ | _, some d => misused e "wc" 1 d
  | .ok totals, none =>
    let inputs := (readOperands e (operands u.operands)).map (counted e)
    let width := if totals = .only then 0 else countWidth u inputs
    let line (c : Counts) (label : Bytes) : Stream × Bytes :=
      (.out, Bytes.join (text " ") ((c.wanted u).map (padded width)) ++ label ++ text "\n")
    let one (i : Counted) : List (Stream × Bytes) :=
      let name := if i.name.elem 0x0A then Quote.shellName i.name else i.name
      let label := if u.operands.isEmpty then [] else text " " ++ name
      let lines (c : Counts) : List (Stream × Bytes) := if totals = .only then [] else [line c label]
      match i.counts with
      | .ok c => lines c
      | .error c =>
        let shown := Quote.shellName (if i.name = text "-" then text "standard input" else i.name)
        (.err, text "wc: " ++ (if i.name.isEmpty then text "invalid zero-length file name"
          else shown ++ text ": " ++ causeWords c) ++ text "\n") ::
          (if c = .isDirectory then lines {} else [])
    let total : Counts := inputs.foldl (fun t i => match i.counts with
      | .ok c => t.add c
      | .error _ => t) {}
    let summed : Bool := match totals with
      | .auto => inputs.length > 1
      | .never => false
      | .always | .only => true
    { writes := inputs.flatMap one ++
        (if summed then [line total (if totals = .only then [] else text " total")] else [])
      readStdin := inputs.any (·.name = text "-")
      disk := e.disk
      ended := .code (if inputs.all (fun i => i.counts.isOk) then 0 else 1) }

end AuditShell.World.Tool
