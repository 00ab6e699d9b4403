import AuditShell.World.Options
import AuditShell.World.Tool.Write
/-!
# Substituting bytes

`tr` maps the bytes of its input to others, deletes them, or squeezes runs of them. A set of bytes is
written with ranges, classes, repeats and escapes.
-/
namespace AuditShell.World.Tool

open Program

/-- The bytes of a character class. -/
def classBytes? (name : Bytes) : Option Bytes :=
  let range (a b : Nat) : Bytes := (List.range (b + 1 - a)).map fun i => (a + i).toUInt8
  let digit := range 0x30 0x39
  let upper := range 0x41 0x5A
  let lower := range 0x61 0x7A
  let punct := range 0x21 0x2F ++ range 0x3A 0x40 ++ range 0x5B 0x60 ++ range 0x7B 0x7E
  if name = text "lower" then some lower
  else if name = text "upper" then some upper
  else if name = text "alpha" then some (upper ++ lower)
  else if name = text "digit" then some digit
  else if name = text "alnum" then some (digit ++ upper ++ lower)
  else if name = text "space" then some (range 0x09 0x0D ++ [0x20])
  else if name = text "blank" then some [0x09, 0x20]
  else if name = text "punct" then some punct
  else if name = text "cntrl" then some (range 0x00 0x1F ++ [0x7F])
  else if name = text "print" then some (range 0x20 0x7E)
  else if name = text "graph" then some (range 0x21 0x7E)
  else if name = text "xdigit" then some (digit ++ range 0x41 0x46 ++ range 0x61 0x66)
  else none

/-! ## Sets -/

/-- A byte of a set, and whether a backslash stood before it. -/
abbrev Sign := UInt8 × Bool

/-- A part of a set. -/
inductive SetPart where
  | byte (b : UInt8)
  | range (first last : UInt8)
  /-- A class of characters by its name. -/
  | named (name : Bytes) (bytes : Bytes)
  /-- A byte and those that are sorted like it. -/
  | alike (b : UInt8)
  /-- A byte some times, or as often as needed. -/
  | repeated (b : UInt8) (count : Option Nat)
  deriving DecidableEq, Repr

namespace SetPart

/-- The bytes of a part. -/
def bytes : SetPart → Bytes
  | .byte b | .alike b => [b]
  | .range a b => (List.range (b.toNat + 1 - a.toNat)).map fun i => (a.toNat + i).toUInt8
  | .named _ bs => bs
  | .repeated b n => List.replicate (min (n.getD 0) 65536) b

/-- Whether a part is a class of letters of one case. -/
def isCase : SetPart → Bool
  | .named n _ => n = text "upper" || n = text "lower"
  | _ => false

/-- Whether a part is a class. -/
def isNamed : SetPart → Bool
  | .named _ _ => true
  | _ => false

/-- Whether a part fills what is left. -/
def isFiller : SetPart → Bool
  | .repeated _ none => true
  | _ => false

end SetPart

/-- The signs of a text in which backslashes stand before some, and what is unusual about it. `fuel` bounds
the number of steps. -/
def signs : (fuel : Nat) → Bytes → List Sign × Bytes
  | 0, _ => ([], [])
  | _ + 1, [] => ([], [])
  | _ + 1, [0x5C] =>
    ([(0x5C, false)], text "tr: warning: an unescaped backslash at end of string is not portable\n")
  | fuel + 1, 0x5C :: b :: rest =>
    let (c, rest, warning) : UInt8 × Bytes × Bytes :=
      if (digitIn? 8 b).isSome then
        let ds := (b :: rest).take 3 |>.takeWhile fun x => (digitIn? 8 x).isSome
        let (n, _) := digits 8 3 0 ds
        if n < 256 then (n.toUInt8, (b :: rest).drop ds.length, [])
        else
          let (m, _) := digits 8 2 0 ds
          (m.toUInt8, (b :: rest).drop 2, text "tr: warning: the ambiguous octal escape \\" ++ ds ++
            text " is being\n\tinterpreted as the 2-byte sequence \\0" ++ ds.take 2 ++ text ", " ++ ds.drop 2 ++
            text "\n")
      else if b = 0x65 then (b, rest, []) else ((simpleEscape? b).getD b, rest, [])
    let (more, said) := signs fuel rest
    ((c, true) :: more, warning ++ said)
  | fuel + 1, b :: rest =>
    let (more, said) := signs fuel rest
    ((b, false) :: more, said)

/-- A byte as a message shows it. -/
def shownByte (b : UInt8) : Bytes :=
  if b = 0x5C then text "\\\\" else match Quote.escape? b with
    | some e => text "\\" ++ e
    | none => [b]

/-- A byte as the complaint about a range shows it. -/
def octalByte (b : UInt8) : Bytes :=
  if Quote.isPrintable b then [b] else [0x5C, 0x30 + b / 64, 0x30 + b / 8 % 8, 0x30 + b % 8]

/-- The inside of brackets whose signs are marks like `[:` and `:]`, and what follows them. -/
def between? (mark : UInt8) : (inside : Bytes) → List Sign → Option (Bytes × List Sign)
  | inside, (a, false) :: (0x5D, false) :: rest =>
    if a = mark then some (inside.reverse, rest) else between? mark (a :: inside) ((0x5D, false) :: rest)
  | inside, (a, _) :: rest => between? mark (a :: inside) rest
  | _, [] => none

/-- A byte that is repeated, after an opening bracket: the byte, a star, and a count before the closing
bracket. Nothing where there is none; the text of the complaint where the count is none. -/
def repeated? (ss : List Sign) : Except Bytes (Option (SetPart × List Sign)) :=
  match ss with
  | (c, _) :: (0x2A, false) :: rest =>
    let inside := rest.takeWhile fun x => !x.2 && x.1 ≠ 0x5D
    match rest.drop inside.length with
    | (0x5D, false) :: after =>
      let ds := inside.map (·.1)
      if ds.isEmpty then .ok (some (.repeated c none, after))
      else
        let base := if ds.head? = some 0x30 then 8 else 10
        let (n, left) := digits base ds.length 0 ds
        if left.isEmpty && n < Nat.pow 2 64 then .ok (some (.repeated c (if n = 0 then none else some n), after))
        else .error (text "invalid repeat count " ++ Quote.quote (ds.flatMap shownByte) ++
          text " in [c*n] construct")
    | _ => .ok none
  | _ => .ok none

/-- The part after an opening bracket, and what follows it. -/
def bracketed? (ss : List Sign) : Except Bytes (Option (SetPart × List Sign)) :=
  match ss with
  | (m, false) :: rest =>
    if m = 0x3A || m = 0x3D then
      match between? m [] rest with
      | none => repeated? ss
      | some (inside, after) =>
        let star := (repeated? ss).toOption.join
        if inside.isEmpty then
          .error (if m = 0x3A then text "missing character class name '[::]'"
            else text "missing equivalence class character '[==]'")
        else if m = 0x3A then
          match classBytes? inside, star with
          | some bs, _ => .ok (some (.named inside bs, after))
          | none, some r => .ok (some r)
          | none, none => .error (text "invalid character class " ++ Quote.quote (inside.flatMap shownByte))
        else
          match inside, star with
          | [b], _ => .ok (some (.alike b, after))
          | _, some r => .ok (some r)
          | _, none =>
            .error (inside.flatMap shownByte ++ text ": equivalence class operand must be a single character")
    else repeated? ss
  | _ => repeated? ss

/-- The parts of a set, or the text of the complaint. `fuel` bounds the number of steps. -/
def setParts : (fuel : Nat) → List Sign → Except Bytes (List SetPart)
  | 0, _ => .ok []
  | fuel + 1, ss =>
    match ss with
    | [] => .ok []
    | (a, escaped) :: b :: c :: rest => do
      let special ← if a = 0x5B && !escaped then bracketed? (b :: c :: rest) else .ok none
      match special with
      | some (part, after) => return part :: (← setParts fuel after)
      | none =>
        if b = (0x2D, false) then
          if c.1 < a then
            .error (text "range-endpoints of '" ++ octalByte a ++ text "-" ++ octalByte c.1 ++
              text "' are in reverse collating sequence order")
          else return .range a c.1 :: (← setParts fuel rest)
        else return .byte a :: (← setParts fuel (b :: c :: rest))
    | (a, _) :: rest => return .byte a :: (← setParts fuel rest)

/-! ## Substitution -/

/-- A place in a set. -/
structure Slot where
  byte : UInt8
  /-- The class that starts here, where it is one of letters of one case: whether they are capitals, and the
  letters. -/
  letters : Option (Bool × Bytes) := none
  /-- Whether such a class started before. -/
  inner : Bool := false
  deriving DecidableEq, Repr

/-- The places of a set. -/
def slots (ps : List SetPart) : List Slot :=
  ps.flatMap fun p =>
    match p with
    | .named n (b :: bs) =>
      if p.isCase then ⟨b, some (n = text "upper", b :: bs), false⟩ :: bs.map fun b => ⟨b, none, true⟩
      else (b :: bs).map fun b => { byte := b }
    | p => p.bytes.map fun b => { byte := b }

/-- The bytes of one set with those of another at the same places, and the bytes that are left. A class of
letters of one case in the second set goes with a class in the first: `skipping` passes over what is left of
that one. -/
def pairs : (skipping : Bool) → List Slot → List Slot → Except Bytes (List (UInt8 × UInt8) × Bytes)
  | _, [], bs => if bs.head?.any (·.letters.isSome) then misaligned else .ok ([], [])
  | skipping, a :: as, bs =>
    if skipping && a.inner then pairs true as bs
    else
      match bs with
      | [] => .ok ([], (a :: as).map (·.byte))
      | b :: bs =>
        match b.letters, a.letters with
        | none, _ => (pairs false as bs).map fun r => ((a.byte, b.byte) :: r.1, r.2)
        | some _, none => misaligned
        | some (v, ys), some (u, xs) =>
          (pairs true as bs).map fun r => ((if u = v then (xs.zip ys).take 1 else xs.zip ys) ++ r.1, r.2)
where
  misaligned : Except Bytes (List (UInt8 × UInt8) × Bytes) :=
    .error (text "misaligned [:upper:] and/or [:lower:] construct")

/-- The bytes that are not in a set, in order. -/
def complement (s : Bytes) : Bytes := ((List.range 256).map Nat.toUInt8).filter fun b => !s.elem b

/-- The parts of a second set, with one that fills what is left of the first set's length. -/
def filled (length : Nat) (ps : List SetPart) : List SetPart :=
  let known := (ps.flatMap SetPart.bytes).length
  ps.map fun p => match p with
    | .repeated b none => .repeated b (some (length - known))
    | p => p

/-- What bytes become when one set is mapped to another. -/
def mapping (complemented truncate : Bool) (first second : List SetPart) :
    Except Bytes (List (UInt8 × UInt8)) := do
  let source := first.flatMap SetPart.bytes
  let source := if complemented then complement source else source
  let second := filled source.length second
  if second.any fun p => match p with
      | .alike _ => true
      | _ => false then
    .error (text "[=c=] expressions may not appear in string2 when translating")
  if second.any fun p => p.isNamed && !p.isCase then
    .error (text ("when translating, the only character classes that may appear in\n" ++
      "string2 are 'upper' and 'lower'"))
  let target := second.flatMap SetPart.bytes
  let (ps, left) ← if complemented then pure (source.zip target, source.drop target.length)
    else pairs false (slots first) ((slots second).filter (!·.inner))
  let ps ← if truncate || left.isEmpty then pure ps
    else match target.getLast?, second.getLast? with
      | none, _ => .error (text "when not truncating set1, string2 must be non-empty")
      | some b, last =>
        if last.any SetPart.isNamed then
          .error (text ("when translating with string1 longer than string2,\n" ++
            "the latter string must not end with a character class"))
        else pure (ps ++ left.map (·, b))
  if complemented && first.any SetPart.isNamed &&
      !(ps.length = source.length && ps.all fun p => p.2 = (ps.headD p).2) then
    .error (text ("when translating with complemented character classes,\n" ++
      "string2 must map all characters in the domain to one"))
  return ps

/-- What a byte becomes. -/
def substitute (ps : List (UInt8 × UInt8)) (b : UInt8) : UInt8 :=
  ((ps.reverse.find? (·.1 = b)).map (·.2)).getD b

/-- Keeps one of equal bytes in a row where they are in a set. -/
def squeeze (s : Bytes) : (last : Option UInt8) → Bytes → Bytes
  | _, [] => []
  | last, b :: bs => if last = some b && s.elem b then squeeze s last bs else b :: squeeze s (some b) bs

/-- A wrong number of operands. -/
def wrongOperands (u : Usage) : Option Bytes :=
  let deletes := u.has "d"
  let squeezes := u.has "s"
  let few (a : Bytes) (note : String) : Option Bytes :=
    some (text "missing operand after " ++ Quote.quote a ++ text "\n" ++ text note)
  let many (a : Bytes) (note : String) : Option Bytes :=
    some (text "extra operand " ++ Quote.quote a ++ text "\n" ++ text note)
  match u.operands with
  | [] => some (text "missing operand\n")
  | [a] =>
    if deletes && squeezes then few a "Two strings must be given when both deleting and squeezing repeats.\n"
    else if deletes || squeezes then none
    else few a "Two strings must be given when translating.\n"
  | [_, b] =>
    if deletes && !squeezes then
      many b "Only one string may be given when deleting without squeezing repeats.\n"
    else none
  | _ :: _ :: c :: _ => many c ""

/-- What `tr` does to its input, given its sets. -/
def change (u : Usage) (first : List SetPart) (second : Option (List SetPart)) : Except Bytes (Bytes → Bytes) := do
  let complemented := u.has "c" || u.has "C"
  let bytes := first.flatMap SetPart.bytes
  let bytes := if complemented then complement bytes else bytes
  if first.any SetPart.isFiller then .error (text "the [c*] repeat construct may not appear in string1")
  match second with
  | none => return if u.has "d" then fun bs => bs.filter fun x => !bytes.elem x else squeeze bytes none
  | some s =>
    if 1 < s.countP SetPart.isFiller then .error (text "only one [c*] repeat construct may appear in string2")
    if u.has "d" then
      if s.any SetPart.isFiller then .error (text "the [c*] construct may appear in string2 only when translating")
      return fun bs => squeeze (s.flatMap SetPart.bytes) none (bs.filter fun x => !bytes.elem x)
    else
      let ps ← mapping complemented (u.has "t") first s
      let table := ((List.range 256).map fun n => substitute ps n.toUInt8).toArray
      let map (bs : Bytes) : Bytes := bs.map fun b => table.getD b.toNat b
      return if u.has "s" then fun bs => squeeze ((filled bytes.length s).flatMap SetPart.bytes) none (map bs) else map

/-- The options of `tr`. -/
def trOptions : Options where
  bare := "AcCdst"
  long := [.bare "complement" "c", .bare "delete" "d", .bare "squeeze-repeats" "s", .bare "truncate-set1" "t"] ++
    Options.common
  mixed := false

/-- The parts of sets in order, with the warnings; the text of the complaint after them otherwise. -/
def readSets : List Bytes → Bytes × Except Bytes (List (List SetPart))
  | [] => ([], .ok [])
  | s :: ss =>
    let (chars, said) := signs (s.length + 1) s
    match setParts (chars.length + 1) chars with
    | .error d => (said, .error d)
    | .ok ps =>
      let (more, rest) := readSets ss
      (said ++ more, rest.map (ps :: ·))

/-- Maps, deletes or squeezes bytes of the standard input. -/
def tr (e : Surroundings) (args : List Bytes) : Outcome :=
  let u := trOptions.read args
  match u.fault, wrongOperands u with
  | some d, _ => misused e "tr" 1 d
  | none, some d => complains e 1 (text "tr: " ++ d ++ hint "tr")
  | none, none =>
    let (said, sets) := readSets u.operands
    match sets.bind fun sets => change u (sets.headD []) sets[1]? with
    | .error d => complains e 1 (said ++ text "tr: " ++ d ++ text "\n")
    | .ok change =>
      match e.stdin with
      | .dir => { complains e 1 (said ++ text "tr: read error: Is a directory\n") with readStdin := true }
      | .flow f _ =>
        { writes := (if said.isEmpty then [] else [(.err, said)]) ++ [(.out, change f.bytes)]
          endless := f.endless.bind fun b => (change [b]).head?
          readStdin := true
          disk := e.disk }

end AuditShell.World.Tool
