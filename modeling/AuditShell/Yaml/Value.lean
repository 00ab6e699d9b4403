import AuditShell.Instant
import AuditShell.Number.Double
import AuditShell.Number.Literal
import AuditShell.Number.Word
import AuditShell.Text.Base64
import AuditShell.Yaml.Node
/-!
# The values of YAML scalars

A plain scalar without a tag means what its text looks like: nothing, a truth value, a number, or
else the text itself. A tag of the format insists on a kind, and a tag of another kind makes a text.
-/
namespace AuditShell.Yaml

/-- A number with a fraction. -/
inductive Real where
  | finite (d : Double)
  | infinite (negative : Bool)
  | undefined
  deriving DecidableEq, Repr

/-- The value of a scalar. -/
inductive Value where
  | null
  | bool (b : Bool)
  | int (n : Int)
  | real (r : Real)
  | instant (source : Bytes)
  | text (bs : Bytes)
  deriving DecidableEq, Repr

/-! ## Numbers -/

/-- The natural number of a text with at least one digit. -/
def natural? (base : Nat) (cs : List Char) : Option Nat := if cs = [] then none else number? base cs

/-- A natural number whose base is told by how it starts. -/
def prefixed? (cs : List Char) : Option Nat :=
  if cs = [] then none
  else
    let (base, ds) := Literal.splitBase cs
    number? base ds

/-- An integer that fits a word, or a number without sign that fits one without sign. -/
def fit (sign : Option Bool) (n : Nat) : Option Int :=
  let v : Int := if sign = some true then -n else n
  if Word.holds v then some v else if sign = none ∧ n < Word.count then some v else none

/-- An integer in the given base, with a sign where it has one. -/
def based? (base : Nat) (cs : List Char) : Option Int := do
  let (sign, ds) := Literal.splitSign cs
  fit sign (← natural? base ds)

/-- An integer that is marked as binary or octal before its own sign. -/
def marked? : List Char → Option Int
  | '0' :: 'b' :: cs => based? 2 cs
  | '0' :: 'o' :: cs => based? 8 cs
  | '-' :: '0' :: 'b' :: cs => based? 2 ('-' :: cs)
  | '-' :: '0' :: 'o' :: cs => based? 8 ('-' :: cs)
  | _ => none

/-- An exponent, zero where there is none. -/
def exponent? : List Char → Option Int
  | [] => some 0
  | c :: cs => do
    if c ≠ 'e' ∧ c ≠ 'E' then none
    let (sign, ds) := Literal.splitSign cs
    let n ← natural? 10 ds
    return if sign = some true then -n else n

/-- A decimal number: digits with a point, and an exponent. -/
def decimal? (cs : List Char) : Option Double := do
  let (sign, cs) := Literal.splitSign cs
  let whole := cs.takeWhile Char.isDigit
  let cs := cs.drop whole.length
  let (frac, cs) := match cs with
    | '.' :: rest => (rest.takeWhile Char.isDigit, rest.dropWhile Char.isDigit)
    | _ => ([], cs)
  if whole = [] ∧ frac = [] then none
  let e ← exponent? cs
  Double.ofDecimal (sign = some true) (← number? 10 (whole ++ frac)) (e - frac.length)

/-- The text without its underscores where each of them stands between two digits. -/
def ungroup? : List Char → Option (List Char)
  | [] => some []
  | a :: '_' :: b :: rest =>
    if a.isDigit ∧ b.isDigit then (ungroup? (b :: rest)).map (a :: ·) else none
  | a :: rest => if a = '_' then none else (ungroup? rest).map (a :: ·)

/-- The number that a text looks like. -/
def numeric? (cs : List Char) : Option Value :=
  match cs.head? with
  | some '.' => (ungroup? cs >>= decimal?).map fun d => .real (.finite d)
  | some c =>
    if c.isDigit ∨ c = '+' ∨ c = '-' then
      let plain := cs.filter (· ≠ '_')
      let (sign, ds) := Literal.splitSign plain
      match prefixed? ds >>= fit sign, decimal? plain, marked? plain with
      | some n, _, _ => some (.int n)
      | none, some d, _ => some (.real (.finite d))
      | none, none, m => m.map .int
    else none
  | none => none

namespace Real

/-- The integer part as a word. What is too small for a word becomes the least one, and so does the
first number above all words; what is larger has none. -/
def toWord? : Real → Option Int
  | .finite d =>
    let (num, den) := d.ratio
    let n : Int := if d.negative then -(num / den : Nat) else (num / den : Nat)
    if Word.half * den < num ∧ !d.negative then none else some (if Word.holds n then n else Word.least)
  | .infinite negative => if negative then some Word.least else none
  | .undefined => none

end Real

/-! ## Times -/

/-- Whether a text is a date, or a date and a time of day. A time after a `T` has a zone, and one
after a space has none. -/
def isTimestamp (cs : List Char) : Bool :=
  let date : Option (List Char) := do
    let (year, cs) ← Instant.number 4 cs
    let cs ← Instant.expect '-' cs
    let (month, cs) ← Instant.shortNumber cs
    let cs ← Instant.expect '-' cs
    let (day, cs) ← Instant.shortNumber cs
    if 1 ≤ month ∧ month ≤ 12 ∧ 1 ≤ day ∧ day ≤ Instant.daysIn month year then some cs else none
  let clock (cs : List Char) : Option (List Char) := do
    let (hour, cs) ← Instant.shortNumber cs
    let cs ← Instant.expect ':' cs
    let (minute, cs) ← Instant.shortNumber cs
    let cs ← Instant.expect ':' cs
    let (second, cs) ← Instant.shortNumber cs
    if hour < 24 ∧ minute < 60 ∧ second < 60 then some (Instant.readFraction cs).2 else none
  match date with
  | none => false
  | some [] => true
  | some (c :: cs) =>
    match clock cs with
    | none => false
    | some rest =>
      if c = 'T' ∨ c = 't' then (Instant.readZone rest).isSome else c = ' ' && rest.isEmpty

/-! ## Scalars -/

namespace Value

/-- The texts that mean nothing, a truth value or a special number. -/
def words : List (String × Value) :=
  [("", .null), ("~", .null), ("null", .null), ("Null", .null), ("NULL", .null),
   ("true", .bool true), ("True", .bool true), ("TRUE", .bool true),
   ("false", .bool false), ("False", .bool false), ("FALSE", .bool false),
   (".nan", .real .undefined), (".NaN", .real .undefined), (".NAN", .real .undefined),
   (".inf", .real (.infinite false)), (".Inf", .real (.infinite false)), (".INF", .real (.infinite false)),
   ("+.inf", .real (.infinite false)), ("+.Inf", .real (.infinite false)), ("+.INF", .real (.infinite false)),
   ("-.inf", .real (.infinite true)), ("-.Inf", .real (.infinite true)), ("-.INF", .real (.infinite true))]

/-- What a text looks like. -/
def implied (cs : List Char) : Value :=
  match words.lookup (String.ofList cs) with
  | some v => v
  | none => (numeric? cs).getD (.text (Utf8.encode cs))

/-- An integer as a number with a fraction. -/
def intToReal? (n : Int) : Option Value :=
  if Word.holds n then (Double.ofRatio (n < 0) n.natAbs 1).map fun d => .real (.finite d) else none

/-- The value of a scalar, or nothing where its text is not of the kind that its tag insists on. -/
def ofScalar (tag : Option (List Char)) (style : Style) (cs : List Char) : Option Value :=
  let source := Utf8.encode cs
  match tag with
  | none => some (if style = .plain then implied cs else .text source)
  | some tag =>
    let isKind (s : String) : Bool := tag = s.toList
    if isKind "!!binary" then (Base64.decode cs).map .text
    else if isKind "!!timestamp" then if isTimestamp cs then some (.instant source) else none
    else
      match implied cs with
      | .null => if isKind "!!null" then some .null else other tag source
      | .bool b => if isKind "!!bool" then some (.bool b) else other tag source
      | .int n =>
        if isKind "!!int" then some (.int n)
        else if isKind "!!float" then intToReal? n
        else other tag source
      | .real r => if isKind "!!float" then some (.real r) else other tag source
      | _ => other tag source
where
  /-- A tag that insists on no kind. -/
  other (tag : List Char) (source : Bytes) : Option Value :=
    if ["!!null", "!!bool", "!!int", "!!float"].any fun s => tag = s.toList then none else some (.text source)

end Value

namespace Document

/-! ## Typed access

Each function gives `none` where the node is of another kind, and `some none` where it is null. -/

/-- The node that an alias stands for, or the node itself. -/
def follow (d : Document) : Node → Node
  | .alias _ _ i => d.anchors.getD i default
  | n => n

/-- The value of a scalar node. -/
def scalarAt (d : Document) (n : Node) : Option (Value × Bytes) :=
  match d.follow n with
  | .scalar tag style cs => (Value.ofScalar tag style cs).map (·, Utf8.encode cs)
  | _ => none

/-- The text of a scalar of any kind. -/
def textAt (d : Document) (n : Node) : Option (Option Bytes) := do
  match ← d.scalarAt n with
  | (.null, _) => return none
  | (.text bs, _) => return some bs
  | (_, source) => return some source

/-- An integer of 64 bits. A number with a fraction is cut off. -/
def intAt (d : Document) (n : Node) : Option (Option Int) := do
  match (← d.scalarAt n).1 with
  | .null => return none
  | .int i => if Word.holds i then return some i else none
  | .real r => return some (← r.toWord?)
  | _ => none

/-- A truth value. Words for yes and no are accepted as well, in quotes too. -/
def boolAt (d : Document) (n : Node) : Option (Option Bool) := do
  match (← d.scalarAt n).1 with
  | .null => return none
  | .bool b => return some b
  | .text bs =>
    if (["y", "Y", "yes", "Yes", "YES", "on", "On", "ON"].map AuditShell.text).elem bs then return some true
    else if (["n", "N", "no", "No", "NO", "off", "Off", "OFF"].map AuditShell.text).elem bs then return some false
    else none
  | _ => none

/-! ## Fields of a mapping -/

/-- Whether two keys are written alike. -/
def sameKey : Node → Node → Bool
  | .scalar _ _ a, .scalar _ _ b => a = b
  | .alias _ a _, .alias _ b _ => a = b
  | .sequence _, .sequence _ => true
  | .mapping _, .mapping _ => true
  | _, _ => false

/-- Whether some key is written twice. -/
def hasTwin : List (Node × Node) → Bool
  | [] => false
  | (k, _) :: rest => rest.any (sameKey k ·.1) || hasTwin rest

/-- Whether a key asks for another mapping's entries. -/
def isMerge : Node → Bool
  | .scalar tag style cs => cs = ['<', '<'] && match tag with
    | none => style = .plain
    | some t => t = "!!merge".toList
  | _ => false

/-- The entries other than merges that have one of the known names, each name once. A null key names
nothing. -/
def ownFields (d : Document) (known : List Bytes) : List (Node × Node) → Option (List (Bytes × Node))
  | [] => some []
  | (k, v) :: rest => do
    let fields ← d.ownFields known rest
    if isMerge k then return fields
    match ← d.textAt k with
    | none => return fields
    | some name =>
      if !known.elem name then return fields
      else if (fields.lookup name).isSome then none
      else return (name, v) :: fields

/-- The mappings that a merge names, each with the alias that it was named by. -/
def mergeSources (d : Document) (n : Node) : Option (List (Option Nat × List (Node × Node))) :=
  let one (n : Node) : Option (Option Nat × List (Node × Node)) :=
    match n, d.follow n with
    | .alias serial _ _, .mapping es => some (some serial, es)
    | _, .mapping es => some (none, es)
    | _, _ => none
  match n with
  | .sequence items => items.mapM one
  | n => (one n).map ([·])

/-- The fields of a mapping that have known names: its own, and then those merged into it under other
names. Two entries may not be written with the same key, and no alias may lead back to itself. -/
def fields (d : Document) (known : List Bytes) :
    Nat → List Nat → List (Node × Node) → Option (List (Bytes × Node))
  | 0, _, _ => none
  | fuel + 1, active, entries => do
    if hasTwin entries then none
    let own ← d.ownFields known entries
    match entries.find? fun e => isMerge e.1 with
    | none => return own
    | some (_, m) =>
      let mut all := own
      for (serial, es) in ← d.mergeSources m do
        if serial.any active.elem then none
        for (name, v) in ← d.fields known fuel (serial.toList ++ active) es do
          if (all.lookup name).isNone then all := all ++ [(name, v)]
      return all

/-- How deep merges can lie inside each other: each alias once, and between two of them no deeper than
the document is long. -/
def bound (d : Document) : Nat := (d.size + 1) * (d.size + 1)

/-- The fields of a mapping node that have known names. -/
def fieldsAt (d : Document) (known : List Bytes) (n : Node) : Option (Option (List (Bytes × Node))) := do
  match n, d.follow n with
  | .alias serial _ _, .mapping es => return some (← d.fields known d.bound [serial] es)
  | _, .mapping es => return some (← d.fields known d.bound [] es)
  | _, .scalar .. =>
    match ← d.scalarAt n with
    | (.null, _) => return none
    | _ => none
  | _, _ => none

end Document

end AuditShell.Yaml
