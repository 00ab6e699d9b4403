import AuditShell.Text.Bytes
/-!
# Points in time

A point in time is a number of seconds since 1970 with nanoseconds, and the offset of the zone in
which it is written. `Instant.render` writes `2006-01-02T15:04:05.123Z` or with an offset
`+01:00`, and refuses a year that has not four digits or an offset of a day and more.
`Instant.parse` reads that form and a few that are close to it: an hour of one digit, a comma before
the fraction, and offsets up to `24:60`.
-/
namespace AuditShell

/-- A point in time with the offset of its zone in seconds. -/
structure Instant where
  seconds : Int
  nanos : Nat
  offset : Int
  deriving DecidableEq, Repr

namespace Instant

/-- The days from 1970-01-01 to the first of March of a year. -/
def daysToMarch (year : Int) : Int :=
  365 * year + Int.fdiv year 4 - Int.fdiv year 100 + Int.fdiv year 400 - 719468

/-- The days from the first of March to the first of a month, January and February last. -/
def daysToMonth (month : Nat) : Nat := (153 * ((month + 9) % 12) + 2) / 5

/-- The days from 1970-01-01 to a date. -/
def daysOfDate (year : Int) (month day : Nat) : Int :=
  let y := if month ≤ 2 then year - 1 else year
  daysToMarch y + daysToMonth month + day - 1

/-- A calendar date. -/
structure Date where
  year : Int
  month : Nat
  day : Nat
  deriving DecidableEq, Repr

/-- The date that is a number of days after 1970-01-01. -/
def dateOfDays (days : Int) : Date :=
  let z := days + 719468
  let era := Int.fdiv z 146097
  let doe := (z - era * 146097).toNat
  let yoe := (doe - doe / 1460 + doe / 36524 - doe / 146096) / 365
  let doy := doe - (365 * yoe + yoe / 4 - yoe / 100)
  let mp := (5 * doy + 2) / 153
  let day := doy - (153 * mp + 2) / 5 + 1
  let month := if mp < 10 then mp + 3 else mp - 9
  let year : Int := yoe + era * 400
  ⟨if month ≤ 2 then year + 1 else year, month, day⟩

/-- Whether a year has a 29th of February. -/
def isLeap (year : Nat) : Bool := year % 4 = 0 && (year % 100 ≠ 0 || year % 400 = 0)

/-- The number of days of a month. -/
def daysIn (month year : Nat) : Nat :=
  if month = 2 then (if isLeap year then 29 else 28)
  else if month = 4 ∨ month = 6 ∨ month = 9 ∨ month = 11 then 30 else 31

/-- The point in time that a clock shows, in the zone with no offset. -/
def ofUnix (seconds nanos : Int) : Instant :=
  ⟨seconds + Int.fdiv nanos 1000000000, (Int.fmod nanos 1000000000).toNat, 0⟩

/-- The point in time that stands for no time: the first of January of the year 1. -/
def unset : Instant := ⟨-62135596800, 0, 0⟩

/-- The last `width` decimal digits of a number. -/
def digits : (width : Nat) → Nat → List Char
  | 0, _ => []
  | width + 1, n => Char.ofNat (48 + n / Nat.pow 10 width % 10) :: digits width n

/-- A fraction of a second without trailing zeros. -/
def fraction (nanos : Nat) : List Char :=
  if nanos = 0 then [] else '.' :: ((digits 9 nanos).reverse.dropWhile (· = '0')).reverse

/-- An offset as it is written. -/
def zone (offset : Int) : List Char :=
  if offset = 0 then ['Z']
  else
    let minutes := offset.natAbs / 60
    (if offset < 0 then '-' else '+') :: digits 2 (minutes / 60) ++ ':' :: digits 2 (minutes % 60)

/-- The text of a point in time, unless its year has not four digits or its offset is a day. -/
def render (t : Instant) : Option Bytes :=
  let now := t.seconds + t.offset
  let days := Int.fdiv now 86400
  let clock := (now - days * 86400).toNat
  let date := dateOfDays days
  if date.year < 0 ∨ 9999 < date.year ∨ 86400 ≤ t.offset.natAbs then none
  else
    some (Utf8.encode (digits 4 date.year.toNat ++ '-' :: digits 2 date.month ++ '-' :: digits 2 date.day ++
      'T' :: digits 2 (clock / 3600) ++ ':' :: digits 2 (clock / 60 % 60) ++ ':' :: digits 2 (clock % 60) ++
      fraction t.nanos ++ zone t.offset))

/-- The value of a decimal digit. -/
def digit? (c : Char) : Option Nat := if '0' ≤ c ∧ c ≤ '9' then some (c.toNat - 48) else none

/-- A number of exactly `width` digits at the start of a text. -/
def number : (width : Nat) → List Char → Option (Nat × List Char)
  | 0, cs => some (0, cs)
  | _ + 1, [] => none
  | width + 1, c :: cs => do
    let d ← digit? c
    let (n, rest) ← number width cs
    return (d * Nat.pow 10 width + n, rest)

/-- A number of one or two digits at the start of a text. -/
def shortNumber (cs : List Char) : Option (Nat × List Char) :=
  match number 2 cs with
  | some r => some r
  | none => number 1 cs

/-- What follows an expected character. -/
def expect (c : Char) : List Char → Option (List Char)
  | d :: cs => if c = d then some cs else none
  | [] => none

/-- A fraction of a second if there is one: a point or comma and at least one digit, of which the
first nine count. -/
def readFraction (cs : List Char) : Nat × List Char :=
  match cs with
  | c :: rest =>
    let ds := rest.takeWhile fun c => (digit? c).isSome
    if (c = '.' ∨ c = ',') ∧ ds ≠ [] then
      let nine := (ds ++ List.replicate 9 '0').take 9
      (nine.foldl (fun n c => 10 * n + (digit? c).getD 0) 0, rest.drop ds.length)
    else (0, cs)
  | [] => (0, cs)

/-- The offset that a text consists of. -/
def readZone : List Char → Option Int
  | ['Z'] => some 0
  | s :: cs => do
    let sign ← if s = '+' then some (1 : Int) else if s = '-' then some (-1) else none
    let (h, cs) ← number 2 cs
    let cs ← expect ':' cs
    let (m, cs) ← number 2 cs
    if cs = [] ∧ h ≤ 24 ∧ m ≤ 60 then some (sign * (3600 * h + 60 * m)) else none
  | [] => none

/-- The point in time that a text says. -/
def parse (cs : List Char) : Option Instant := do
  let (year, cs) ← number 4 cs
  let cs ← expect '-' cs
  let (month, cs) ← number 2 cs
  let cs ← expect '-' cs
  let (day, cs) ← number 2 cs
  let cs ← expect 'T' cs
  let (hour, cs) ← shortNumber cs
  let cs ← expect ':' cs
  let (minute, cs) ← number 2 cs
  let cs ← expect ':' cs
  let (second, cs) ← number 2 cs
  let (nanos, cs) := readFraction cs
  let offset ← readZone cs
  if 1 ≤ month ∧ month ≤ 12 ∧ 1 ≤ day ∧ day ≤ daysIn month year ∧ hour < 24 ∧ minute < 60 ∧ second < 60 then
    let seconds := daysOfDate year month day * 86400 + (3600 * hour + 60 * minute + second : Nat)
    some ⟨seconds - offset, nanos, offset⟩
  else none

end Instant

end AuditShell
