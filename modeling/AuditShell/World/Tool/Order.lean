import AuditShell.World.Options
import AuditShell.World.Tool.Quantity
import AuditShell.World.Tool.Version
/-!
# Ordering lines

`sort` orders the lines of its operands by keys: parts of a line with a style in which they are compared.
Lines with equal keys are compared as they are, unless the order is to be stable or equal lines are left
out. It can also merge files that are in order, or find out whether one is.
-/
namespace AuditShell.World.Tool

open Program

/-! ## Keys -/

/-- How keys are compared. -/
structure KeyStyle where
  /-- Whether blanks are passed over before the place where a key starts, and where it ends. -/
  skipStart : Bool := false
  skipEnd : Bool := false
  /-- Whether only letters, digits and blanks count. -/
  dictionary : Bool := false
  /-- Whether only what is printed counts. -/
  printable : Bool := false
  /-- Whether small letters count as capitals. -/
  fold : Bool := false
  general : Bool := false
  human : Bool := false
  month : Bool := false
  numeric : Bool := false
  random : Bool := false
  version : Bool := false
  reverse : Bool := false
  deriving DecidableEq, Repr

/-- A part of a line: from a byte of a field, to the end of the line or to a byte of another field. Fields
and bytes are counted from zero; with no byte at the end, the whole field belongs to the part. -/
structure Key where
  style : KeyStyle := {}
  startField : Nat := 0
  startByte : Nat := 0
  endField : Option Nat := none
  endByte : Nat := 0
  deriving DecidableEq, Repr

namespace KeyStyle

/-- The style with one letter more; `start` and `finish` say for which places of a key. -/
def withLetter? (s : KeyStyle) (start finish : Bool) (b : UInt8) : Option KeyStyle :=
  if b = 0x62 then some { s with skipStart := s.skipStart || start, skipEnd := s.skipEnd || finish }
  else if b = 0x64 then some { s with dictionary := true, printable := false }
  else if b = 0x66 then some { s with fold := true }
  else if b = 0x67 then some { s with general := true }
  else if b = 0x68 then some { s with human := true }
  else if b = 0x69 then some { s with printable := !s.dictionary }
  else if b = 0x4D then some { s with month := true }
  else if b = 0x6E then some { s with numeric := true }
  else if b = 0x52 then some { s with random := true }
  else if b = 0x72 then some { s with reverse := true }
  else if b = 0x56 then some { s with version := true }
  else none

/-- The style with letters at the start of a text, and what follows them. -/
def withLetters (s : KeyStyle) (start finish : Bool) : Bytes → KeyStyle × Bytes
  | [] => (s, [])
  | b :: bs =>
    match s.withLetter? start finish b with
    | some s => s.withLetters start finish bs
    | none => (s, b :: bs)

/-- Whether keys are compared as they are, perhaps the other way round. -/
def isPlain (s : KeyStyle) : Bool := { s with reverse := false } = {}

/-- The letters of ways to compare that exclude each other, where there is more than one. -/
def conflict? (s : KeyStyle) : Option String :=
  let one (b : Bool) (c : String) : String := if b then c else ""
  let ignores := s.dictionary || s.printable
  let count (b : Bool) : Nat := if b then 1 else 0
  if 1 < count s.numeric + count s.general + count s.human + count s.month +
      count (s.version || s.random || ignores) then
    some (one s.dictionary "d" ++ one s.fold "f" ++ one s.general "g" ++ one s.human "h" ++ one s.printable "i" ++
      one s.month "M" ++ one s.numeric "n" ++ one s.random "R" ++ one s.version "V")
  else none

end KeyStyle

/-- Whether a byte divides fields where no other byte is said to. -/
def isBlankByte (b : UInt8) : Bool := b = 0x20 || b = 0x09 || b = 0x0A

/-- What follows a number of fields. -/
def skipFields (tab : Option UInt8) : Nat → Bytes → Bytes
  | 0, b => b
  | _ + 1, [] => []
  | n + 1, b =>
    match tab with
    | some t => skipFields tab n ((b.dropWhile (· ≠ t)).drop 1)
    | none => skipFields tab n ((b.dropWhile isBlankByte).dropWhile (!isBlankByte ·))

/-- The part of a line that is a key. -/
def Key.part (k : Key) (tab : Option UInt8) (line : Bytes) : Bytes :=
  let blanks (skip : Bool) (b : Bytes) : Bytes := if skip then b.dropWhile isBlankByte else b
  let start := (blanks k.style.skipStart (skipFields tab k.startField line)).drop k.startByte
  let after := match k.endField with
    | none => []
    | some n =>
      if k.endByte ≠ 0 then (blanks k.style.skipEnd (skipFields tab n line)).drop k.endByte
      else match tab with
        | some t => (skipFields tab n line).dropWhile (· ≠ t)
        | none => skipFields tab (n + 1) line
  start.take (start.length - after.length)

/-! ## Reading keys -/

/-- A count at the start of a text, and what follows it. -/
def fieldCount? (b : Bytes) : Option (Nat × Bytes) :=
  let c := b.dropWhile fun x => x = 0x20 || (0x09 ≤ x && x ≤ 0x0D)
  let c := if c.head? = some 0x2B then c.tail else c
  let ds := c.takeWhile fun x => 0x30 ≤ x && x ≤ 0x39
  (number? ds).map (·, c.drop ds.length)

/-- A key from its text, or what is wrong with it. -/
def Key.read (spec : Bytes) : Except Bytes Key := do
  let wrong (detail : String) : Except Bytes Unit :=
    .error (text detail ++ text ": invalid field specification " ++ Quote.quote spec)
  let count (detail : String) (b : Bytes) : Except Bytes (Nat × Bytes) :=
    match fieldCount? b with
    | some r => .ok r
    | none => .error (text detail ++ text ": invalid count at start of " ++ Quote.quote b)
  let (field, b) ← count "invalid number at field start" spec
  if field = 0 then wrong "field number is zero"
  let (byte, b) ← if b.head? = some 0x2E then count "invalid number after '.'" b.tail else .ok (1, b)
  if byte = 0 then wrong "character offset is zero"
  let (style, b) := KeyStyle.withLetters {} true false b
  let k : Key := { style, startField := field - 1, startByte := byte - 1 }
  let (k, b) ← if b.head? = some 0x2C then do
      let (field, b) ← count "invalid number after ','" b.tail
      if field = 0 then wrong "field number is zero"
      let (byte, b) ← if b.head? = some 0x2E then count "invalid number after '.'" b.tail else .ok (0, b)
      let (style, b) := k.style.withLetters false true b
      pure ({ k with style, endField := some (field - 1), endByte := byte }, b)
    else pure (k, b)
  if !b.isEmpty then wrong "stray character in field spec"
  return k

/-! ## Comparing keys -/

/-- The bytes of a key that count, as they count. -/
def KeyStyle.shown (s : KeyStyle) (b : Bytes) : Bytes :=
  let counts (x : UInt8) : Bool :=
    if s.dictionary then Version.isLetter x || Version.isDigit x || isBlankByte x
    else !s.printable || Quote.isPrintable x
  (b.filter counts).map fun x => if s.fold && 0x61 ≤ x && x ≤ 0x7A then x - 0x20 else x

/-- The order of texts byte by byte. -/
def compareBytes (a b : Bytes) : Ordering := if a = b then .eq else if Bytes.le a b then .lt else .gt

/-- The number at the start of a text: a whole number, to be divided by a power of ten. -/
def leadingNumber (b : Bytes) : Int × Nat :=
  let b := b.dropWhile isBlankByte
  let negative := b.head? = some 0x2D
  let b := if negative then b.tail else b
  let whole := b.takeWhile Version.isDigit
  let rest := b.drop whole.length
  let part := if rest.head? = some 0x2E then rest.tail.takeWhile Version.isDigit else []
  let n : Int := ((number? (whole ++ part)).getD 0 : Nat)
  (if negative then -n else n, part.length)

/-- The order of the numbers at the start of texts. -/
def compareLeading (a b : Bytes) : Ordering :=
  let (m, k) := leadingNumber a
  let (n, l) := leadingNumber b
  compare (m * Nat.pow 10 l) (n * Nat.pow 10 k)

/-- The power of a thousand that the letter after a number says, with the sign of the number. -/
def leadingScale (b : Bytes) : Int :=
  let b := b.dropWhile isBlankByte
  let negative := b.head? = some 0x2D
  let b := if negative then b.tail else b
  let whole := b.takeWhile Version.isDigit
  let rest := b.drop whole.length
  let part := if rest.head? = some 0x2E then rest.tail.takeWhile Version.isDigit else []
  let rest := if rest.head? = some 0x2E then rest.drop (1 + part.length) else rest
  if (whole ++ part).all (· = 0x30) then 0
  else
    let scale : Int := ((rest.head?.bind scaleOf?).filter fun _ => rest.head? ≠ some 0x6D).getD 0
    if negative then -scale else scale

/-- The number of the month whose first letters stand at the start of a text; zero for none. -/
def monthOf (b : Bytes) : Nat :=
  let name := ((b.dropWhile isBlankByte).take 3).map fun x => if 0x61 ≤ x && x ≤ 0x7A then x - 0x20 else x
  let months := ["JAN", "FEB", "MAR", "APR", "MAY", "JUN", "JUL", "AUG", "SEP", "OCT", "NOV", "DEC"]
  ((months.findIdx? fun m => text m = name).map (· + 1)).getD 0

/-- The order of the quantities at the start of texts: what is none comes first, then the undefined. -/
def compareQuantities (a b : Bytes) : Ordering :=
  match quantity? a, quantity? b with
  | none, none => .eq
  | none, some _ => .lt
  | some _, none => .gt
  | some (.undefined _, _), some (.undefined _, _) => .eq
  | some (.undefined _, _), some _ => .lt
  | some _, some (.undefined _, _) => .gt
  | some (x, _), some (y, _) => (x.compare? y).getD .eq

/-- The order of keys in a style. -/
def KeyStyle.compare (s : KeyStyle) (a b : Bytes) : Ordering :=
  let a := s.shown a
  let b := s.shown b
  let order :=
    if s.numeric then compareLeading a b
    else if s.general then compareQuantities a b
    else if s.human then (Ord.compare (leadingScale a) (leadingScale b)).then (compareLeading a b)
    else if s.month then Ord.compare (monthOf a) (monthOf b)
    else if s.random then .eq
    else if s.version then Version.compareNames a b
    else compareBytes a b
  if s.reverse then order.swap else order

/-! ## Orders -/

/-- What is asked of `sort`. -/
structure Sorting where
  style : KeyStyle := {}
  keys : List Key := []
  tab : Option UInt8 := none
  unique : Bool := false
  stable : Bool := false
  ending : UInt8 := 0x0A
  /-- Whether the order is only checked, and if so whether a fault is shown. -/
  check : Option Bool := none
  merge : Bool := false
  output : Option Bytes := none
  deriving DecidableEq, Repr

namespace Sorting

/-- The order of lines by their keys. -/
def compareKeys (s : Sorting) (a b : Bytes) : Ordering :=
  s.keys.foldl (fun o k => o.then (k.style.compare (k.part s.tab a) (k.part s.tab b))) .eq

/-- The order of lines. -/
def compare (s : Sorting) (a b : Bytes) : Ordering :=
  let byKeys := s.compareKeys a b
  if !s.keys.isEmpty && (byKeys ≠ .eq || s.unique || s.stable) then byKeys
  else
    let order := compareBytes a b
    if s.style.reverse then order.swap else order

/-- Keeps the first of equal lines in a row. -/
def firstOfEach (s : Sorting) : (last : Option Bytes) → List Bytes → List Bytes
  | _, [] => []
  | last, l :: ls =>
    if last.any fun k => s.compare k l = .eq then firstOfEach s last ls else l :: firstOfEach s (some l) ls

/-- The lines of a text without their ends. -/
def linesOf (s : Sorting) (b : Bytes) : List Bytes :=
  let ls := b.splitOn s.ending
  if ls.getLast? = some [] then ls.dropLast else ls

/-- The first of lines by their order, with the place of the file that it comes from. -/
def firstLine (s : Sorting) (files : List (List Bytes)) : Option (Nat × Bytes) :=
  ((List.range files.length).zip files).foldl (fun best f =>
    match best, f.2 with
    | none, l :: _ => some (f.1, l)
    | some (i, k), l :: _ => if s.compare k l = .gt then some (f.1, l) else some (i, k)
    | best, [] => best) none

/-- Files merged: always the first of their first lines. `fuel` bounds the number of lines. -/
def mergeFiles (s : Sorting) : (fuel : Nat) → List (List Bytes) → List Bytes
  | 0, _ => []
  | fuel + 1, files =>
    match s.firstLine files with
    | none => []
    | some (i, l) => l :: mergeFiles s fuel (files.modify i List.tail)

/-- The lines of files in order. -/
def run (s : Sorting) (files : List (List Bytes)) : List Bytes :=
  let all := files.flatten
  let sorted := if s.merge then s.mergeFiles all.length files else all.mergeSort fun a b => s.compare a b ≠ .gt
  if s.unique then s.firstOfEach none sorted else sorted

/-- The first line that is out of order, with its number. -/
def fault? (s : Sorting) : (number : Nat) → List Bytes → Option (Nat × Bytes)
  | n, a :: b :: ls =>
    let order := s.compare a b
    if order = .gt || (s.unique && order = .eq) then some (n + 1, b) else fault? s (n + 1) (b :: ls)
  | _, _ => none

/-- What an option asks for; otherwise the code and the text of the complaint. -/
def option (s : Sorting) (o : String × Option Bytes) : Except (Int × Bytes) Sorting :=
  let v := o.2.getD []
  let wrong (detail : Bytes) : Except (Int × Bytes) Sorting := .error (2, detail ++ text "\n")
  let ordered (letter : Bytes) : Except (Int × Bytes) Sorting :=
    .ok { s with style := (s.style.withLetters true true letter).1 }
  let checked (show' : Bool) : Except (Int × Bytes) Sorting :=
    if s.check.any (· ≠ show') then wrong (text "options '-cC' are incompatible")
    else .ok { s with check := some show' }
  let choose {α : Type} [DecidableEq α] (option : String) (choices : List (String × α)) : Except (Int × Bytes) α :=
    (Options.choose option choices v).mapError fun d => (1, d ++ text "\n" ++ hint "sort")
  if o.1 = "k" then do
    match Key.read v with
    | .ok k => return { s with keys := s.keys ++ [k] }
    | .error d => wrong d
  else if o.1 = "t" then
    let set (t : UInt8) : Except (Int × Bytes) Sorting :=
      if s.tab.any (· ≠ t) then wrong (text "incompatible tabs") else .ok { s with tab := some t }
    match v with
    | [] => wrong (text "empty tab")
    | [t] => set t
    | _ => if v = text "\\0" then set 0 else wrong (text "multi-character tab " ++ Quote.quote v)
  else if o.1 = "o" then
    if s.output.any (· ≠ v) then wrong (text "multiple output files specified") else .ok { s with output := some v }
  else if o.1 = "c" then
    if o.2.isNone then checked true
    else do checked (← choose "--check" [("quiet", false), ("silent", false), ("diagnose-first", true)])
  else if o.1 = "C" then checked false
  else if o.1 = "sort" then do
    ordered (← choose "--sort" [("general-numeric", text "g"), ("human-numeric", text "h"), ("month", text "M"),
      ("numeric", text "n"), ("random", text "R"), ("version", text "V")])
  else if o.1 = "m" then .ok { s with merge := true }
  else if o.1 = "s" then .ok { s with stable := true }
  else if o.1 = "u" then .ok { s with unique := true }
  else if o.1 = "z" then .ok { s with ending := 0 }
  else ordered (if o.1.length = 1 then text o.1 else [])

/-- The options of `sort`. -/
def options : Options where
  bare := "bcCdfghimMnrRsuVz"
  valued := "koStTy"
  long := [.bare "ignore-leading-blanks" "b", .optional "check" "c", .valued "compress-program" "compress-program",
    .bare "debug" "debug", .bare "dictionary-order" "d", .bare "ignore-case" "f", .bare "general-numeric-sort" "g",
    .bare "ignore-nonprinting" "i", .valued "key" "k", .bare "merge" "m", .bare "month-sort" "M",
    .bare "numeric-sort" "n", .bare "human-numeric-sort" "h", .bare "version-sort" "V", .bare "random-sort" "R",
    .valued "random-source" "random-source", .valued "sort" "sort", .valued "output" "o", .bare "reverse" "r",
    .bare "stable" "s", .valued "batch-size" "batch-size", .valued "buffer-size" "S", .valued "field-separator" "t",
    .valued "temporary-directory" "T", .bare "unique" "u", .bare "zero-terminated" "z",
    .valued "parallel" "parallel"] ++ Options.common

/-- Keys without a style of their own have that of the options; without keys, the whole line is one where
the style asks for more than the reverse order. -/
def settle (s : Sorting) : Sorting :=
  let own (k : Key) : Key := if k.style = {} then { k with style := s.style } else k
  { s with keys := if s.keys.isEmpty && !s.style.isPlain then [{ style := s.style }] else s.keys.map own }

/-- What arguments ask for, with the operands; otherwise the code and the text of the complaint. -/
def ofArguments (args : List Bytes) : Except (Int × Bytes) (Sorting × List Bytes) := do
  let u := options.read args
  let s ← u.given.foldlM option {}
  if let some d := u.fault then .error (2, d ++ text "\n" ++ hint "sort")
  let s := s.settle
  let incompatible (letters : String) : Except (Int × Bytes) Unit :=
    .error (2, text ("options '-" ++ letters ++ "' are incompatible\n"))
  if let some letters := s.keys.findSome? (·.style.conflict?) then incompatible letters
  if let some shown := s.check then
    let letter := if shown then "c" else "C"
    if let some extra := u.operands[1]? then
      .error (2, text "extra operand " ++ Quote.shellAlways extra ++ text (" not allowed with -" ++ letter ++ "\n"))
    if s.output.isSome then incompatible (letter ++ "o")
  return (s, u.operands)

end Sorting

/-- Sorts the lines of its operands. -/
def sort (e : Surroundings) (args : List Bytes) : Outcome :=
  match Sorting.ofArguments args with
  | .error (code, d) => complains e code (text "sort: " ++ d)
  | .ok (s, given) =>
    let names := operands given
    let readStdin := names.elem (text "-")
    let bad (detail : String) (n : Bytes) (c : OsError.Cause) : Outcome :=
      { complains e 2 (text ("sort: " ++ detail ++ ": ") ++ Quote.shellName n ++ text ": " ++ causeWords c ++ text "\n")
        with readStdin }
    let inputs := readOperands e names
    let failed := inputs.filterMap fun i => match i.2 with
      | .ok _ => none
      | .error c => some (i.1, c)
    let files := inputs.map fun i => match i.2 with
      | .ok f => s.linesOf f.bytes
      | .error _ => []
    let isDirectory (f : Bytes × OsError.Cause) : Bool := f.2 = .isDirectory
    let place : Except (Bytes × OsError.Cause) (Option (Place × Bool)) :=
      match s.output with
      | none => .ok none
      | some o =>
        match e.disk.resolve e.cwd o with
        | .ok (.file p _ x) => .ok (some (p, x))
        | .ok (.missing p false) => .ok (some (p, false))
        | .ok _ => .error (o, .isDirectory)
        | .error c => .error (o, c)
    match s.check, failed.find? (!isDirectory ·), failed.head?, place with
    | some _, some (n, c), _, _ => bad "open failed" n c
    | none, some (n, c), _, _ => bad "cannot read" n c
    | none, none, _, .error (n, c) => bad "open failed" n c
    | _, none, some (n, c), _ => bad "read failed" n c
    | some shown, none, none, _ =>
      match s.fault? 1 (files.headD []) with
      | none => { disk := e.disk, readStdin }
      | some (n, l) =>
        let said := text "sort: " ++ names.headD [] ++ text ":" ++ Bytes.ofNat n ++
          text ": disorder: " ++ l ++ [s.ending]
        { writes := if shown then [(.err, said)] else [], disk := e.disk, readStdin, ended := .code 1 }
    | none, none, none, .ok place =>
      let out := (s.run files).flatMap (· ++ [s.ending])
      match place with
      | none => { prints e out with readStdin }
      | some (p, x) => { disk := e.disk.put p (.file out x), readStdin }

end AuditShell.World.Tool
