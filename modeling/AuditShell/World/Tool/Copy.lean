import AuditShell.World.Options
/-!
# Tools that copy

`cat` writes its operands one after another, `head` the beginning of each.
-/
namespace AuditShell.World.Tool

open Program

/-! ## Whole files -/

/-- What `cat` shows apart from the bytes themselves. -/
structure Display where
  numbers : Bool
  numbersFull : Bool
  squeeze : Bool
  ends : Bool
  tabs : Bool
  marks : Bool

/-- The display that options ask for. -/
def Display.of (u : Usage) : Display where
  numbers := u.has "n" && !u.has "b"
  numbersFull := u.has "b"
  squeeze := u.has "s"
  ends := u.has "E" || u.has "A" || u.has "e"
  tabs := u.has "T" || u.has "A" || u.has "t"
  marks := u.has "v" || u.has "A" || u.has "e" || u.has "t"

/-- Whether the bytes are written as they are. -/
def Display.plain (d : Display) : Bool :=
  !(d.numbers || d.numbersFull || d.squeeze || d.ends || d.tabs || d.marks)

/-- A byte that is no control, with the marks of the others. -/
def marked (b : UInt8) : Bytes :=
  let low (b : UInt8) : Bytes := if b < 0x20 then [0x5E, b + 0x40] else if b = 0x7F then text "^?" else [b]
  if b < 0x80 then low b else text "M-" ++ low (b - 0x80)

/-- Where a numbered copy stands: the number of the next line, whether it is at the start of one,
and whether the line before was empty. -/
structure Progress where
  line : Nat := 1
  fresh : Bool := true
  blank : Bool := false

/-- The number before a line. -/
def lineNumber (n : Nat) : Bytes :=
  let d := Bytes.ofNat n
  List.replicate (6 - d.length) 0x20 ++ d ++ [0x09]

/-- One byte as it is displayed. -/
def Display.step (d : Display) (p : Progress) (b : UInt8) : Bytes × Progress :=
  let newline := (if d.ends then text "$" else []) ++ [0x0A]
  if b = 0x0A then
    if !p.fresh then (newline, { p with fresh := true, blank := false })
    else if d.squeeze && p.blank then ([], p)
    else if d.numbers then (lineNumber p.line ++ newline, { p with line := p.line + 1, blank := true })
    else (newline, { p with blank := true })
  else
    let shown := if b = 0x09 then (if d.tabs then text "^I" else [b]) else if d.marks then marked b else [b]
    if p.fresh && (d.numbers || d.numbersFull) then (lineNumber p.line ++ shown, ⟨p.line + 1, false, false⟩)
    else (shown, { p with fresh := false, blank := false })

/-- Bytes as they are displayed. -/
def Display.render (d : Display) (p : Progress) (bs : Bytes) : Bytes × Progress :=
  if d.plain then (bs, p)
  else
    let (shown, p) := bs.foldl (fun acc b =>
      let (s, p) := d.step acc.2 b
      (s.reverse ++ acc.1, p)) ([], p)
    (shown.reverse, p)

/-- Reads one operand after another. -/
def catFrom (e : Surroundings) (d : Display) (p : Progress) : List Bytes → Outcome
  | [] => { disk := e.disk }
  | a :: as =>
    let input := a = text "-"
    let same := input && (match e.stdin with
      | .flow f (some p) => e.stdoutFile = some p && !f.bytes.isEmpty
      | _ => false)
    let next := if input then drained e else e
    let bad (detail : Bytes) : Outcome :=
      let o := catFrom next d p as
      { o with
        writes := (.err, text "cat: " ++ Quote.shellName a ++ text ": " ++ detail ++ text "\n") :: o.writes
        readStdin := input || o.readStdin
        ended := .code 1 }
    if same then bad (text "input file is output file")
    else
      match readOperand e a with
      | .error c => bad (causeWords c)
      | .ok f =>
        match f.endless with
        | some b => { writes := [(.out, f.bytes)], endless := some b, readStdin := input, disk := e.disk }
        | none =>
          let (shown, p) := d.render p f.bytes
          let o := catFrom next d p as
          { o with writes := (.out, shown) :: o.writes, readStdin := input || o.readStdin }

/-- The options of `cat`. -/
def catOptions : Options where
  bare := "AbeEnstTuv"
  long := [.bare "number-nonblank" "b", .bare "number" "n", .bare "squeeze-blank" "s", .bare "show-nonprinting" "v",
    .bare "show-ends" "E", .bare "show-tabs" "T", .bare "show-all" "A"] ++ Options.common

/-- Writes the content of its operands. -/
def cat (e : Surroundings) (args : List Bytes) : Outcome :=
  let u := catOptions.read args
  match u.fault with
  | some d => misused e "cat" 1 d
  | none => catFrom e (.of u) {} (operands u.operands)

/-! ## Beginnings -/

/-- The first `n` lines of a text, which end with a given byte. -/
def takeLines (ending : UInt8) : Nat → Bytes → Bytes
  | 0, _ => []
  | _ + 1, [] => []
  | n + 1, b :: bs => if b = ending then b :: takeLines ending n bs else b :: takeLines ending (n + 1) bs

/-- The number of lines of a text, one without an end among them. -/
def lineCount (ending : UInt8) (b : Bytes) : Nat :=
  b.count ending + (if b.getLast?.all (· = ending) then 0 else 1)

/-- How much `head` writes, and of what. -/
structure Excerpt where
  byBytes : Bool := false
  /-- Whether the end is left out, and not the beginning taken. -/
  butLast : Bool := false
  count : Nat := 10
  /-- What lines end with. -/
  ending : UInt8 := 0x0A
  /-- Whether titles are always written, or never. -/
  titles : Option Bool := none
  deriving DecidableEq, Repr

namespace Excerpt

/-- The part of a flow that is asked for. -/
def cut (x : Excerpt) (f : Flow) : Bytes :=
  match x.byBytes, x.butLast with
  | false, false => takeLines x.ending x.count f.bytes
  | true, false =>
    match f.endless with
    | some b => f.bytes.take x.count ++ List.replicate (x.count - f.bytes.length) b
    | none => f.bytes.take x.count
  | false, true => takeLines x.ending (lineCount x.ending f.bytes - x.count) f.bytes
  | true, true => f.bytes.take (f.bytes.length - x.count)

/-- Takes a count from its text; the text of the complaint otherwise. -/
def setCount (x : Excerpt) (v : Bytes) : Except Bytes Excerpt :=
  let wrong (note : String) : Except Bytes Excerpt :=
    .error (text (if x.byBytes then "invalid number of bytes: " else "invalid number of lines: ") ++ Quote.quote v ++
      text note ++ text "\n")
  match scaled "bkKmMGTPEZYRQ0" v with
  | .ok n => .ok { x with count := n }
  | .error .invalid => wrong ""
  | .error .tooLarge => wrong ": Value too large for defined data type"

/-- What stands in the first argument after a hyphen and digits. -/
def letters (x : Excerpt) (unit : Bytes) (ds : Bytes) : Bytes → Except Bytes Excerpt
  | [] => x.setCount (ds ++ unit)
  | b :: bs =>
    if b = 0x63 then letters { x with byBytes := true } [] ds bs
    else if (text "bkm").elem b then letters { x with byBytes := true } [b] ds bs
    else if b = 0x6C then letters { x with byBytes := false } unit ds bs
    else if b = 0x71 then letters { x with titles := some false } unit ds bs
    else if b = 0x76 then letters { x with titles := some true } unit ds bs
    else if b = 0x7A then letters { x with ending := 0 } unit ds bs
    else .error (text "invalid trailing option -- " ++ [b] ++ text "\n" ++ hint "head")

/-- What an option asks for. -/
def option (x : Excerpt) (o : String × Option Bytes) : Except Bytes Excerpt :=
  let v := o.2.getD []
  let (butLast, count) := if v.head? = some 0x2D then (true, v.tail) else (false, v)
  if o.1 = "c" then { x with byBytes := true, butLast }.setCount count
  else if o.1 = "n" then { x with byBytes := false, butLast }.setCount count
  else if o.1 = "q" then .ok { x with titles := some false }
  else if o.1 = "v" then .ok { x with titles := some true }
  else if o.1 = "z" then .ok { x with ending := 0 }
  else if o.1 = "help" || o.1 = "version" then .ok x
  else .error (text "invalid trailing option -- " ++ text o.1 ++ text "\n" ++ hint "head")

/-- The options of `head`. -/
def options : Options where
  bare := "qvz0123456789"
  valued := "cn"
  long := [.valued "bytes" "c", .valued "lines" "n", .bare "quiet" "q", .bare "silent" "q",
    .bare "verbose" "v", .bare "zero-terminated" "z"] ++ Options.common

/-- What arguments ask for, with the operands; the text of the complaint otherwise. -/
def ofArguments (args : List Bytes) : Except Bytes (Excerpt × List Bytes) := do
  let first := args.headD []
  let ds := first.tail.takeWhile fun b => 0x30 ≤ b && b ≤ 0x39
  let isOld := first.head? = some 0x2D && !ds.isEmpty
  let x ← if isOld then letters {} [] ds (first.drop (1 + ds.length)) else .ok {}
  let u := options.read (if isOld then args.tail else args)
  let x ← u.given.foldlM option x
  match u.fault with
  | some d => .error (d ++ text "\n" ++ hint "head")
  | none => return (x, u.operands)

/-- Whether anything is read at all. -/
def readsNothing (x : Excerpt) : Bool := !x.butLast && x.count = 0

/-- The surroundings after the standard input has been read. What is left of a file is left for the next
reader; of other inputs, what follows a number of bytes. -/
def after (x : Excerpt) (e : Surroundings) : Surroundings :=
  match e.stdin with
  | .dir => e
  | .flow f regular =>
    if f.endless.isSome then e
    else
      let keeps := !x.butLast && (x.byBytes || regular.isSome)
      { e with stdin := .flow ⟨if keeps then f.bytes.drop (x.cut f).length else [], none⟩ regular }

end Excerpt

/-- Writes the beginning of its operands. -/
def head (e : Surroundings) (args : List Bytes) : Outcome :=
  match Excerpt.ofArguments args with
  | .error d => complains e 1 (text "head: " ++ d)
  | .ok (x, given) =>
    let names := operands given
    let titled := x.titles.getD (names.length > 1)
    let one (e : Surroundings) (o : Outcome) (name : Bytes) : Outcome :=
      let input := name = text "-"
      let shown := if input then text "standard input" else name
      let title := if titled then
          (if o.writes.any (·.1 = .out) then text "\n" else []) ++ text "==> " ++ shown ++ text " <==\n"
        else []
      let o := { o with readStdin := input || o.readStdin }
      let bad (detail : Bytes) (c : OsError.Cause) : Stream × Bytes :=
        (.err, text "head: " ++ detail ++ text ": " ++ causeWords c ++ text "\n")
      let said (ws : List (Stream × Bytes)) : Outcome := { o with writes := o.writes ++ ws, ended := .code 1 }
      match readOperand e name with
      | .error .isDirectory =>
        if x.readsNothing then { o with writes := o.writes ++ [(.out, title)] }
        else said [(.out, title), bad (text "error reading " ++ Quote.shellAlways shown) .isDirectory]
      | .error c => said [bad (text "cannot open " ++ Quote.shellAlways name ++ text " for reading") c]
      | .ok f => { o with writes := o.writes ++ [(.out, title ++ x.cut f)] }
    (names.foldl (fun (s : Surroundings × Outcome) n =>
      (if n = text "-" then x.after s.1 else s.1, one s.1 s.2 n)) (e, { disk := e.disk })).2

end AuditShell.World.Tool
