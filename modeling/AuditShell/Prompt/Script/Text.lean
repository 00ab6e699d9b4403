import AuditShell.Prompt.Script.Format
import AuditShell.Text.Blank
/-!
# Methods of texts in a prompt script

Texts are cut at bytes and looked at by characters. Positions count bytes.
-/
namespace AuditShell.Prompt.Script

namespace Text

/-! ## Searching -/

/-- The place of the first occurrence of a text, counted from a place. -/
def indexFrom (needle : Bytes) : (i : Nat) → Bytes → Option Nat
  | i, [] => if needle.isEmpty then some i else none
  | i, b :: rest => if needle.isPrefixOf (b :: rest) then some i else indexFrom needle (i + 1) rest

/-- The place of the first occurrence of a text in another. -/
def index? (needle s : Bytes) : Option Nat := indexFrom needle 0 s

/-- The place of the last occurrence of a text in another. -/
def lastIndex? (needle s : Bytes) : Option Nat :=
  (index? needle.reverse s.reverse).map fun i => s.length - i - needle.length

/-- The pieces of a text between the first `limit` occurrences of another, which is not empty. The
current piece is read so far in reverse, and `skip` counts the bytes of an occurrence still to come. -/
def splitFrom (sep : Bytes) : (limit skip : Nat) → (sofar : Bytes) → Bytes → List Bytes
  | _, _, sofar, [] => [sofar.reverse]
  | limit, skip + 1, sofar, _ :: rest => splitFrom sep limit skip sofar rest
  | 0, 0, sofar, b :: rest => splitFrom sep 0 0 (b :: sofar) rest
  | limit + 1, 0, sofar, b :: rest =>
    if sep.isPrefixOf (b :: rest) then sofar.reverse :: splitFrom sep limit (sep.length - 1) [] rest
    else splitFrom sep (limit + 1) 0 (b :: sofar) rest

/-- The pieces of a text between the first `limit` occurrences of another. -/
def split (sep : Bytes) (limit : Nat) (s : Bytes) : List Bytes := splitFrom sep limit 0 [] s

/-- The pieces of a text between all occurrences of another. -/
def splitAll (sep s : Bytes) : List Bytes := split sep s.length s

/-- The pieces of a text between the last `limit` of all occurrences of another. -/
def splitLast (sep : Bytes) (limit : Nat) (s : Bytes) : List Bytes :=
  let ps := splitAll sep s
  if ps.length ≤ limit then ps
  else
    let excess := ps.length - limit
    Bytes.join sep (ps.take excess) :: ps.drop excess

/-- How often a text occurs in another; the empty one occurs around every character. -/
def count (needle s : Bytes) : Nat :=
  if needle = [] then (Utf8.decode s).length + 1 else (splitAll needle s).length - 1

/-- The bytes of the characters of a text, each by itself. -/
def pieceBytes : Utf8.Piece → Bytes
  | .char c => Utf8.encodeChar c
  | .stray b => [b]

/-- A text put around the first characters of another, `limit` times. -/
def surround (new : Bytes) : (limit : Nat) → List Utf8.Piece → Bytes
  | 0, ps => ps.flatMap pieceBytes
  | _ + 1, [] => new
  | limit + 1, p :: ps => new ++ pieceBytes p ++ surround new limit ps

/-- A text with the first `limit` occurrences of another replaced. -/
def replace (old new : Bytes) (limit : Nat) (s : Bytes) : Bytes :=
  if old = [] then surround new limit (Utf8.pieces s) else Bytes.join new (split old limit s)

/-! ## Blanks -/

/-- Whether a unit of text is a blank. -/
def isBlankPiece (p : Utf8.Piece) : Bool := isBlank p.toChar

/-- The words of a text: the first `limit` of them, and the rest with its blanks. -/
def words : (fuel limit : Nat) → List Utf8.Piece → List Bytes
  | 0, _, _ => []
  | fuel + 1, limit, ps =>
    let rest := ps.dropWhile isBlankPiece
    let word := rest.takeWhile fun p => !isBlankPiece p
    match limit, rest with
    | _, [] => []
    | 0, rest => [rest.flatMap pieceBytes]
    | limit + 1, rest => word.flatMap pieceBytes :: words fuel limit (rest.drop word.length)

/-- The words of a text: the last `limit` of them, and the rest with its blanks. -/
def lastWords (limit : Nat) (ps : List Utf8.Piece) : List Bytes :=
  let rec walk : (fuel limit : Nat) → List Utf8.Piece → List Bytes
    | 0, _, _ => []
    | fuel + 1, limit, ps =>
      let rest := ps.dropWhile isBlankPiece
      let word := rest.takeWhile fun p => !isBlankPiece p
      match limit, rest with
      | _, [] => []
      | 0, rest => [rest.reverse.flatMap pieceBytes]
      | limit + 1, rest => word.reverse.flatMap pieceBytes :: walk fuel limit (rest.drop word.length)
  (walk (ps.length + 1) limit ps.reverse).reverse

/-- The text without given characters at its start. -/
def trimLeft (cut : Char → Bool) (ps : List Utf8.Piece) : List Utf8.Piece := ps.dropWhile fun p => cut p.toChar

/-- The text without given characters at its end. -/
def trimRight (cut : Char → Bool) (ps : List Utf8.Piece) : List Utf8.Piece := (trimLeft cut ps.reverse).reverse

/-- The lines of a text, with or without their ends. -/
def lines (keep : Bool) (s : Bytes) : List Bytes :=
  let ls := s.splitOn 0x0A
  let whole := ls.dropLast.map fun l => if keep then l ++ [0x0A] else l
  whole ++ (ls.getLast?.toList.filter (· ≠ []))

/-! ## Letters -/

/-- Whether every character of a text meets a condition, and there is one. -/
def all (f : Char → Bool) (s : Bytes) : Bool := !s.isEmpty && (Utf8.decode s).all f

/-- A text with each character changed. A text of ASCII characters that do not change stays as it is. -/
def mapChars (f : Char → Char) (s : Bytes) : Bytes := Utf8.encode ((Utf8.decode s).map f)

/-- A text with a capital letter first. -/
def capitalize (s : Bytes) : Bytes :=
  match Utf8.decode s with
  | [] => []
  | c :: cs => Utf8.encode (Letter.title c :: cs.map Letter.lower)

/-- A text in which every word starts with a capital letter. `inWord` says that a letter stands
before. -/
def title : (inWord : Bool) → List Char → List Char
  | _, [] => []
  | inWord, c :: cs =>
    let d := if inWord then Letter.lower c else Letter.title c
    d :: title (Letter.isCased d) cs

/-- Whether words start with capital letters and go on with small ones. `cased` says that there was a
letter, and `inWord` that one stands before. -/
def isTitle : (cased inWord : Bool) → List Char → Bool
  | cased, _, [] => cased
  | cased, inWord, c :: cs =>
    if c.isUpper || Letter.isTitle c then !inWord && isTitle true true cs
    else if Letter.isLower c then inWord && isTitle true true cs
    else if Letter.isUpper c then false
    else isTitle cased false cs

/-- Whether a text has letters with cases, and a change of case leaves it as it is. -/
def isFixed (f : Char → Char) (s : Bytes) : Bool := (Utf8.decode s).any Letter.isCased && mapChars f s == s

end Text

/-! ## Methods -/

/-- A text as a value. -/
def ofText (s : Bytes) : Value := .string s.toByteArray

/-- Texts as a list. -/
def ofTexts (ss : List Bytes) : Run Value := newList (ss.map ofText).toArray

/-- The part of a text that the last two arguments of a method bound, and where it starts. -/
def part (s : Bytes) (args : List Value) : Run (Nat × Bytes) := do
  let (lo, hi) ← match args with
    | [] => pure (Value.none, Value.none)
    | [lo] => pure (lo, Value.none)
    | [lo, hi] => pure (lo, hi)
    | _ => fail
  let (a, b) ← orFail (bounds s.length lo hi)
  return (a, (s.take b).drop a)

/-- The texts of values that must be strings, joined. -/
def joinTexts (sep : Bytes) (v : Value) : Run Value := do
  let vs ← items v
  let ss ← vs.toList.mapM fun v => match v with
    | .string s => pure s.toList
    | _ => fail
  return ofText (Bytes.join sep ss)

/-- Whether one of some values, which must be strings, passes a test. -/
def anyText (test : Bytes → Bool) : List Value → Run Bool
  | [] => return false
  | .string s :: vs => if test s.toList then return true else anyText test vs
  | _ => fail

/-- How often at most something is cut or replaced; a negative number says that there is no bound. -/
def limitOf (s : Bytes) : List Value → Run Nat
  | [] => return s.length + 1
  | [v] => do
    let n ← orFail (int64? v)
    return if n < 0 then s.length + 1 else n.toNat
  | _ => fail

/-- A text cut at a separator or at blanks, from the left or from the right. -/
def splitMethod (s : Bytes) (fromRight : Bool) (args : List Value) : Run Value := do
  let limit ← limitOf s (args.drop 1)
  match args.head? with
  | some (.string sep) =>
    if sep.isEmpty then fail
    else ofTexts (if fromRight then Text.splitLast sep.toList limit s else Text.split sep.toList limit s)
  | some .none => blanks limit
  | none => blanks limit
  | some _ => fail
where
  /-- A text cut at blanks. -/
  blanks (limit : Nat) : Run Value :=
    let ps := Utf8.pieces s
    ofTexts (if fromRight then Text.lastWords limit ps else Text.words (ps.length + 1) limit ps)

/-- The characters that a text is trimmed of. -/
def cutOf : List Value → Run (Char → Bool)
  | [] => return isBlank
  | [.string s] => return if s.isEmpty then isBlank else (Utf8.decode s.toList).elem
  | _ => fail

/-- The place of a text in the part of another that arguments bound. -/
def findMethod (s : Bytes) (last : Bool) (args : List Value) : Run (Option Nat) := do
  match args with
  | .string t :: rest =>
    let (start, s) ← part s rest
    return (if last then Text.lastIndex? t.toList s else Text.index? t.toList s).map (· + start)
  | _ => fail

/-- A text in three: before, at and after a separator. -/
def partition (s : Bytes) (last : Bool) (sep : Bytes) : Run Value := do
  if sep = [] then fail
  let parts := match (if last then Text.lastIndex? sep s else Text.index? sep s) with
    | some i => [s.take i, sep, s.drop (i + sep.length)]
    | none => if last then [[], [], s] else [s, [], []]
  return .tuple (parts.map ofText).toArray

/-- Whether the part of a text that arguments bound passes a test with one of some texts. -/
def affixMethod (test : Bytes → Bytes → Bool) (s : Bytes) (args : List Value) : Run Value := do
  match args with
  | x :: rest =>
    let (_, s) ← part s rest
    match x with
    | .string p => return .bool (test p.toList s)
    | .tuple ps => .bool <$> anyText (test · s) ps.toList
    | _ => fail
  | [] => fail

/-- The methods of strings. -/
def stringMethods : List Name :=
  ["capitalize", "codepoint_ords", "codepoints", "count", "elem_ords", "elems", "endswith", "find", "format", "index",
    "isalnum", "isalpha", "isdigit", "islower", "isspace", "istitle", "isupper", "join", "lower", "lstrip",
    "partition", "removeprefix", "removesuffix", "replace", "rfind", "rindex", "rpartition", "rsplit", "rstrip",
    "split", "splitlines", "startswith", "strip", "title", "upper"]

/-- A method of a string. -/
def stringMethod (raw : ByteArray) (n : Name) (args : List Value) (named : Named) : Run Value := do
  let s := raw.toList
  if n = "format" then return .string (← formatBraces args.toArray named (s.length + 1) .unknown s .empty)
  if !named.isEmpty then fail
  match n, args with
  | "capitalize", [] => return ofText (Text.capitalize s)
  | "codepoint_ords", [] => return .codepoints raw true
  | "codepoints", [] => return .codepoints raw false
  | "count", .string t :: rest => return .int (Text.count t.toList (← part s rest).2)
  | "elem_ords", [] => return .elems raw true
  | "elems", [] => return .elems raw false
  | "endswith", args => affixMethod List.isSuffixOf s args
  | "find", args => return .int (((← findMethod s false args).map Int.ofNat).getD (-1))
  | "index", args => return .int (← orFail (← findMethod s false args))
  | "isalnum", [] => return .bool (Text.all (fun c => Letter.isLetter c || Letter.isDigit c) s)
  | "isalpha", [] => return .bool (Text.all Letter.isLetter s)
  | "isdigit", [] => return .bool (Text.all Letter.isDigit s)
  | "islower", [] => return .bool (Text.isFixed Letter.lower s)
  | "isspace", [] => return .bool (Text.all isBlank s)
  | "istitle", [] => return .bool (Text.isTitle false false (Utf8.decode s))
  | "isupper", [] => return .bool (Text.isFixed Letter.upper s)
  | "join", [v] => joinTexts s v
  | "lower", [] => return ofText (Text.mapChars Letter.lower s)
  | "lstrip", args => return ofText ((Text.trimLeft (← cutOf args) (Utf8.pieces s)).flatMap Text.pieceBytes)
  | "partition", [.string sep] => partition s false sep.toList
  | "removeprefix", [.string p] =>
    return ofText (if p.toList.isPrefixOf s then s.drop p.size else s)
  | "removesuffix", [.string p] =>
    return ofText (if p.toList.isSuffixOf s then s.take (s.length - p.size) else s)
  | "replace", .string old :: .string new :: rest =>
    return ofText (Text.replace old.toList new.toList (← limitOf s rest) s)
  | "rfind", args => return .int (((← findMethod s true args).map Int.ofNat).getD (-1))
  | "rindex", args => return .int (← orFail (← findMethod s true args))
  | "rpartition", [.string sep] => partition s true sep.toList
  | "rsplit", args => splitMethod s true args
  | "rstrip", args => return ofText ((Text.trimRight (← cutOf args) (Utf8.pieces s)).flatMap Text.pieceBytes)
  | "split", args => splitMethod s false args
  | "splitlines", [] => ofTexts (Text.lines false s)
  | "splitlines", [.bool keep] => ofTexts (Text.lines keep s)
  | "startswith", args => affixMethod List.isPrefixOf s args
  | "strip", args => do
    let cut ← cutOf args
    return ofText ((Text.trimRight cut (Text.trimLeft cut (Utf8.pieces s))).flatMap Text.pieceBytes)
  | "title", [] => return ofText (Utf8.encode (Text.title false (Utf8.decode s)))
  | "upper", [] => return ofText (Text.mapChars Letter.upper s)
  | _, _ => fail

end AuditShell.Prompt.Script
