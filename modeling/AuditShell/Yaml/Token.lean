import AuditShell.Yaml.Scalar
/-!
# The tokens of a YAML text

Tokens show the structure that indentation and marks give a text. A mapping key is known as one only
when its colon is met, so a token that may start a key is remembered by its position (`KeyStart`) and
the tokens that open the mapping are put in front of it later. A key lies on one line, and its colon
within 1024 characters.

`Token.scan` gives the tokens that a reader can see: all of them, or, where the text is malformed at
some place, those that do not have that place in their lookahead.
-/
namespace AuditShell.Yaml

/-- A token. -/
inductive Token where
  | version (major minor : Nat)
  | tagDirective (handle expansion : List Char)
  | documentStart
  | documentEnd
  | streamEnd
  | blockSequence
  | blockMapping
  | blockEnd
  | flowSequence
  | flowSequenceEnd
  | flowMapping
  | flowMappingEnd
  | dash
  | comma
  | key
  | value
  | alias (name : List Char)
  | anchor (name : List Char)
  | tag (handle suffix : List Char)
  | scalar (text : List Char) (style : Style)
  deriving DecidableEq, Repr

/-- A place where a mapping key may have started. -/
structure KeyStart where
  /-- The position of the first token of the key. -/
  token : Nat
  line : Nat
  column : Nat
  index : Nat
  /-- Whether only a key can stand here. -/
  required : Bool
  deriving Repr

/-- How far the text has been read. -/
structure Layout where
  cursor : Cursor
  /-- The column of the innermost block, or -1 outside all blocks. -/
  indent : Int := -1
  /-- The columns of the blocks around it, innermost first. -/
  around : List Int := []
  /-- The possible key starts, one place for the block and one for each open flow collection. -/
  starts : List (Option KeyStart) := [none]
  keyAllowed : Bool := true
  tokens : Array Token := #[]

namespace Layout

/-- Whether a flow collection is open. -/
def inFlow (s : Layout) : Bool := !s.starts.tail.isEmpty

/-- How many flow collections, and how many blocks, may be open at once. -/
def maxDepth : Nat := 10000

/-- Adds a token. -/
def push (s : Layout) (t : Token) : Layout := { s with tokens := s.tokens.push t }

/-- Gives up the innermost key start. -/
def dropStart (s : Layout) : Option Layout :=
  match s.starts with
  | some k :: rest => if k.required then none else some { s with starts := none :: rest }
  | _ => some s

/-- Remembers that a key may start here. -/
def saveStart (s : Layout) : Option Layout :=
  if s.keyAllowed then do
    let s ← s.dropStart
    let c := s.cursor
    let k : KeyStart :=
      ⟨s.tokens.size, c.line, c.column, c.index, !s.inFlow && s.indent == (c.column : Int)⟩
    return { s with starts := some k :: s.starts.tail }
  else some s

/-- Whether a colon at this place can still make the start a key. -/
def isLive (s : Layout) (k : KeyStart) : Bool := k.line == s.cursor.line && s.cursor.index ≤ k.index + 1024

/-- Opens a block at a column unless one is open there. Its token goes to a position. -/
def openBlock (s : Layout) (column : Nat) (position : Nat) (t : Token) : Option Layout :=
  if s.inFlow ∨ (column : Int) ≤ s.indent then some s
  else if maxDepth ≤ s.around.length then none
  else some { s with
    indent := column, around := s.indent :: s.around, tokens := s.tokens.insertIdxIfInBounds position t }

/-- The blocks left open at a column, and the tokens with an end for each of the others. -/
def closing (column : Int) : Int → List Int → Array Token → Int × List Int × Array Token
  | indent, [], tokens => (indent, [], tokens)
  | indent, outer :: around, tokens =>
    if column < indent then closing column outer around (tokens.push .blockEnd)
    else (indent, outer :: around, tokens)

/-- Closes the blocks that are indented deeper than a column. -/
def closeBlocks (s : Layout) (column : Int) : Layout :=
  if s.inFlow then s
  else
    let (indent, around, tokens) := closing column s.indent s.around s.tokens
    { s with indent, around, tokens }

/-- Passes blanks, comments and line ends. -/
def toNextToken : Nat → Layout → Layout
  | 0, s => s
  | fuel + 1, s =>
    let tabs := s.inFlow || !s.keyAllowed
    let c := (s.cursor.span fun x => x = ' ' || (tabs && x = '\t')).2
    let c := if c.rest.head? = some '#' then c.skipComments c.rest.length else c
    if c.rest.head?.any isBreak then
      toNextToken fuel { s with cursor := c.readBreak.2, keyAllowed := s.keyAllowed || !s.inFlow }
    else { s with cursor := c }

/-! ## Directives, anchors and tags -/

/-- Reads one part of a version. -/
def versionPart (c : Cursor) : Option (Nat × Cursor) := do
  let (ds, c) := c.span Char.isDigit
  if ds = [] ∨ 2 < ds.length then none
  return (← number? 10 ds, c)

/-- A character of the address in a tag. -/
def isAddressChar (c : Char) : Bool :=
  isNameChar c || [';', '/', '?', ':', '@', '&', '=', '+', '$', ',', '.', '!', '~', '*', '\'', '(', ')', '[',
    ']'].elem c

/-- Reads an octet written as a percent sign and two digits. -/
def octet? : List Char → Option (UInt8 × List Char)
  | '%' :: a :: b :: rest => do return (((← digit? 16 a) * 16 + (← digit? 16 b)).toUInt8, rest)
  | _ => none

/-- The length of a character, by its first octet. -/
def width? (b : UInt8) : Option Nat :=
  if b < 0x80 then some 1
  else if 0xC0 ≤ b ∧ b ≤ 0xDF then some 2
  else if 0xE0 ≤ b ∧ b ≤ 0xEF then some 3
  else if 0xF0 ≤ b ∧ b ≤ 0xF7 then some 4
  else none

/-- Reads the octets that continue a character. -/
def tailOctets : Nat → List Char → Option (Bytes × List Char)
  | 0, cs => some ([], cs)
  | n + 1, cs => do
    let (b, cs) ← octet? cs
    if Utf8.isTail b then
      let (bs, cs) ← tailOctets n cs
      return (b :: bs, cs)
    else none

/-- Reads the address in a tag. -/
def address : Nat → Cursor → List Char → Option (List Char × Cursor)
  | 0, c, out => some (out, c)
  | fuel + 1, c, out =>
    match c.rest with
    | '%' :: _ => do
      let (b, _) ← octet? c.rest
      let n ← width? b
      let (bs, _) ← tailOctets (n - 1) (c.rest.drop 3)
      address fuel (c.skip (3 * n)) (out ++ Utf8.decode (b :: bs))
    | x :: _ => if isAddressChar x then address fuel (c.skip 1) (out ++ [x]) else some (out, c)
    | [] => some (out, c)

/-- Reads the handle of a tag: an exclamation mark, a name, and a second mark where there is one. -/
def tagHandle (c : Cursor) : Option (List Char × Cursor) := do
  if c.rest.head? ≠ some '!' then none
  let (name, c) := (c.skip 1).span isNameChar
  if c.rest.head? = some '!' then return ('!' :: name ++ ['!'], c.skip 1) else return ('!' :: name, c)

/-- Reads a directive after its percent sign, to the end of its line. -/
def directive (c : Cursor) : Option (Token × Cursor) := do
  let (name, c) := c.span isNameChar
  if name = [] ∨ ¬ gapNext c.rest then none
  let c := c.skipBlanks
  let (t, c) ← (if name = "YAML".toList then do
      let (major, c) ← versionPart c
      if c.rest.head? ≠ some '.' then none
      let (minor, c) ← versionPart (c.skip 1)
      return (.version major minor, c)
    else if name = "TAG".toList then do
      let (handle, c) ← tagHandle c
      if handle ≠ ['!'] ∧ (handle.length = 1 ∨ handle.getLast? ≠ some '!') then none
      if ¬ c.rest.head?.any isBlank then none
      let (expansion, c) ← address c.rest.length c.skipBlanks []
      if expansion = [] ∨ ¬ gapNext c.rest then none
      return (.tagDirective handle expansion, c)
    else none : Option (Token × Cursor))
  let c := c.skipBlanks
  let c := if c.rest.head? = some '#' then c.skipLine else c
  if lineEnds c.rest then return (t, c.readBreak.2) else none

/-- Reads the name of an anchor or an alias. -/
def anchorName (c : Cursor) : Option (List Char × Cursor) :=
  let (name, c) := c.span isNameChar
  let ends := gapNext c.rest || c.rest.head?.any ['?', ':', ',', ']', '\x7d', '%', '@', '\x60'].elem
  if name ≠ [] ∧ ends then some (name, c) else none

/-- Reads a tag: an address in angle brackets, a handle with a suffix, or a suffix alone. -/
def readTag (c : Cursor) : Option (Token × Cursor) := do
  let (t, c) ← (match c.rest with
    | '!' :: '<' :: _ => do
      let (suffix, c) ← address c.rest.length (c.skip 2) []
      if suffix = [] ∨ c.rest.head? ≠ some '>' then none
      return (.tag [] suffix, c.skip 1)
    | _ => do
      let (handle, c) ← tagHandle c
      if 1 < handle.length ∧ handle.getLast? = some '!' then
        let (suffix, c) ← address c.rest.length c []
        if suffix = [] then none
        return (.tag handle suffix, c)
      else
        let (suffix, c) ← address c.rest.length c handle.tail
        if suffix = [] then return (.tag [] ['!'], c) else return (.tag ['!'] suffix, c) : Option (Token × Cursor))
  if gapNext c.rest then return (t, c) else none

/-! ## One token -/

/-- A mark that cannot start a plain scalar by itself. -/
def isIndicator (c : Char) : Bool := ['-', '?', ':', '#', '|', '>', '%', '@', '\x60'].elem c

/-- Adds a token that may start a key. -/
def pushStart (s : Layout) (read : Cursor → Option (Token × Cursor)) : Option Layout := do
  let s ← s.saveStart
  let (t, c) ← read s.cursor
  return { s.push t with cursor := c, keyAllowed := false }

/-- Adds the mark that stands here. -/
def pushMark (s : Layout) (length : Nat) (t : Token) (keyAllowed : Bool) : Layout :=
  { s.push t with cursor := s.cursor.skip length, keyAllowed }

/-- Adds a colon. With a live key start it makes a key of what stands there. -/
def pushValue (s : Layout) : Option Layout :=
  let loose (s : Layout) : Option Layout :=
    if s.inFlow then some (s.pushMark 1 .value false)
    else if s.keyAllowed then
      (s.openBlock s.cursor.column s.tokens.size .blockMapping).map (·.pushMark 1 .value true)
    else none
  match s.starts with
  | some k :: rest =>
    if s.isLive k then
      let s := { s with starts := none :: rest, tokens := s.tokens.insertIdxIfInBounds k.token .key }
      (s.openBlock k.column k.token .blockMapping).map (·.pushMark 1 .value false)
    else if k.required then none
    else loose { s with starts := none :: rest }
  | _ => loose s

/-- Adds a plain scalar. -/
def pushPlain (s : Layout) : Option Layout := do
  let s ← s.saveStart
  let c := s.cursor
  let (text, c, broken) ← plainText s.inFlow (s.indent + 1).toNat (c.rest.length + 1) c [] {}
  return { s.push (.scalar text .plain) with cursor := c, keyAllowed := broken }

/-- Adds a block scalar. -/
def pushBlock (s : Layout) (folded : Bool) : Option Layout := do
  let s ← s.dropStart
  let (text, c) ← blockText folded s.indent (s.cursor.skip 1)
  return { s.push (.scalar text .block) with cursor := c, keyAllowed := true }

/-- Ends all blocks and adds a token that stands between documents. -/
def pushOuter (s : Layout) (read : Cursor → Option (Token × Cursor)) : Option Layout := do
  let s ← (s.closeBlocks (-1)).dropStart
  let (t, c) ← read s.cursor
  return { s.push t with cursor := c, keyAllowed := false }

/-- Whether a comment after the last token on its line belongs to what follows: the token ended with
a line, or it stands for nothing by itself. -/
def isOpen (s : Layout) : Bool :=
  match s.tokens.back? with
  | some (.scalar ..) => s.keyAllowed
  | some .dash | some .documentStart | some .documentEnd | some (.version ..) | some (.tagDirective ..) => true
  | _ => false

/-- Passes a comment that belongs to the last token. -/
def passNote (s : Layout) : Layout := if s.isOpen then s else { s with cursor := s.cursor.skipNote }

/-- Reads the next token. -/
def advance (s : Layout) : Option Layout :=
  let s := s.toNextToken (s.cursor.rest.length + 1)
  let s := s.closeBlocks s.cursor.column
  let c := s.cursor
  match c.rest with
  | [] => s.pushOuter fun c => some (.streamEnd, c)
  | x :: next =>
    if c.column = 0 ∧ x = '%' then s.pushOuter fun c => directive (c.skip 1)
    else if c.atMarker then
      s.pushOuter fun c => some (if x = '-' then .documentStart else .documentEnd, c.skip 3)
    else if x = '[' ∨ x = '\x7b' then do
      let s ← s.saveStart
      if maxDepth < s.starts.length then none
      return { s with starts := none :: s.starts }.pushMark 1 (if x = '[' then .flowSequence else .flowMapping) true
    else if x = ']' ∨ x = '\x7d' then do
      let s ← s.dropStart
      let starts := if s.inFlow then s.starts.tail else s.starts
      return { s with starts }.pushMark 1 (if x = ']' then .flowSequenceEnd else .flowMappingEnd) false
    else if x = ',' then do
      return (← s.dropStart).pushMark 1 .comma true
    else if x = '-' ∧ gapNext next then do
      if ¬ s.inFlow ∧ ¬ s.keyAllowed then none
      return (← (← s.openBlock c.column s.tokens.size .blockSequence).dropStart).pushMark 1 .dash true
    else if x = '?' ∧ (s.inFlow ∨ gapNext next) then do
      if ¬ s.inFlow ∧ ¬ s.keyAllowed then none
      return (← (← s.openBlock c.column s.tokens.size .blockMapping).dropStart).pushMark 1 .key (!s.inFlow)
    else if x = ':' ∧ (s.inFlow ∨ gapNext next) then s.pushValue
    else if x = '*' then s.pushStart fun c => do
      let (n, c) ← anchorName (c.skip 1)
      return (.alias n, c)
    else if x = '&' then s.pushStart fun c => do
      let (n, c) ← anchorName (c.skip 1)
      return (.anchor n, c)
    else if x = '!' then s.pushStart readTag
    else if (x = '|' ∨ x = '>') ∧ ¬ s.inFlow then s.pushBlock (x = '>')
    else if x = '\'' ∨ x = '"' then s.pushStart fun c => do
      let (text, c) ← quotedText (x = '\'') (c.rest.length + 1) (c.skip 1) []
      return (.scalar text .quoted, c)
    else if !isIndicator x && !isGap x
        || (x = '-' && !next.head?.any isBlank)
        || (!s.inFlow && (x = '?' || x = ':') && !gapNext next) then s.pushPlain
    else none

/-- Reads tokens to the end. Where that fails, the state before the failure. -/
def run : Nat → Layout → Layout × Bool
  | 0, s => (s, false)
  | fuel + 1, s =>
    match s.advance with
    | none => (s, false)
    | some s => if s.tokens.back? = some .streamEnd then (s, true) else run fuel s.passNote

end Layout

/-- The tokens that a reader can see. A token is seen once the two after it are known, and once it
can no longer be the start of a key. -/
def Token.scan (cs : List Char) : List Token :=
  let (s, complete) := Layout.run (cs.length + 2) { cursor := { rest := cs } }
  let all := s.tokens.toList
  if complete then all
  else
    let pending := s.starts.filterMap fun k => (k.filter s.isLive).map (·.token)
    (all.zipIdx.takeWhile fun (_, i) => i + 2 < all.length && !pending.elem i).map (·.1)

end AuditShell.Yaml
