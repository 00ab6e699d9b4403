import AuditShell.World.Program
import AuditShell.World.Tool.Quantity
/-!
# Tools that write their arguments

`echo`, and the backslash escapes that it shares with `printf`.
-/
namespace AuditShell.World.Tool

open Program

/-! ## Escapes -/

/-- The byte of a one-letter escape. -/
def simpleEscape? (b : UInt8) : Option UInt8 :=
  if b = 0x61 then some 0x07 else if b = 0x62 then some 0x08 else if b = 0x65 then some 0x1B
  else if b = 0x66 then some 0x0C else if b = 0x6E then some 0x0A else if b = 0x72 then some 0x0D
  else if b = 0x74 then some 0x09 else if b = 0x76 then some 0x0B else if b = 0x5C then some 0x5C else none

/-- What a backslash and what follows it stand for, and the rest. `leadingZero` says that a zero can
stand before the octal digits. -/
def escape (leadingZero : Bool) (b : UInt8) (rest : Bytes) : Bytes × Bytes :=
  match simpleEscape? b with
  | some c => ([c], rest)
  | none =>
    if leadingZero && b = 0x30 then
      let (n, rest) := digits 8 3 0 rest
      ([n.toUInt8], rest)
    else if (digitIn? 8 b).isSome then
      let (n, rest) := digits 8 3 0 (b :: rest)
      ([n.toUInt8], rest)
    else if b = 0x78 && (rest.head?.bind (digitIn? 16)).isSome then
      let (n, rest) := digits 16 2 0 rest
      ([n.toUInt8], rest)
    else ([0x5C, b], rest)

/-- Replaces backslash escapes, up to a `\c`; the second part says that there was one. `fuel` bounds
the number of steps. -/
def unescape (leadingZero : Bool) : (fuel : Nat) → Bytes → Bytes × Bool
  | 0, _ => ([], false)
  | fuel + 1, 0x5C :: b :: rest =>
    if b = 0x63 then ([], true)
    else
      let (shown, rest) := escape leadingZero b rest
      let (more, stopped) := unescape leadingZero fuel rest
      (shown ++ more, stopped)
  | fuel + 1, b :: rest =>
    let (more, stopped) := unescape leadingZero fuel rest
    (b :: more, stopped)
  | _ + 1, [] => ([], false)

/-- Writes its arguments with blanks between them. -/
def echo (e : Surroundings) (args : List Bytes) : Outcome :=
  let isFlag (a : Bytes) : Bool :=
    isOption a && a.tail.all fun b => b = 0x6E || b = 0x65 || b = 0x45
  let flags := (args.takeWhile isFlag).flatMap List.tail
  let body := Bytes.join (text " ") (args.dropWhile isFlag)
  let escapes := (flags.filter (· ≠ 0x6E)).getLast? = some 0x65
  let (body, stopped) := if escapes then unescape true (body.length + 1) body else (body, false)
  prints e (body ++ (if stopped || flags.elem 0x6E then [] else text "\n"))

end AuditShell.World.Tool
