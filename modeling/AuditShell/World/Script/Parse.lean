import AuditShell.World.Script.Token
/-!
# Reading command scripts

`nextCommand` reads the commands up to the end of a line that ends them. A script is read and run line
by line, so that what stands before a line that cannot be read has its effect.
-/
namespace AuditShell.World.Script

/-- Where a part of a word stands. -/
inductive Quoting where
  | plain
  | double
  /-- The text of a here document. -/
  | document
  /-- An expression. -/
  | sum
  deriving DecidableEq, Repr

namespace Quoting

/-- Whether text in this place is quoted. -/
def isQuoted (q : Quoting) : Bool := q ≠ .plain

/-- Whether a backslash takes the meaning away from a byte. -/
def escapes (q : Quoting) (braces : Bool) (b : UInt8) : Bool :=
  match q with
  | .plain => true
  | .double => (text "\\\x60$\"").elem b || (braces && b == byte '\x7d')
  | .document => (text "\\\x60$").elem b
  | .sum => (text "\\\x60$\"").elem b

end Quoting

/-- How far a list of commands goes. -/
inductive Extent where
  /-- To the end of a line. -/
  | line
  /-- To a token that ends it; it holds a command. -/
  | body
  /-- To a token that ends it; it may be empty. -/
  | free
  deriving DecidableEq, Repr

/-- The text of a substitution in backquotes, in which a backslash takes the meaning away from some
bytes, and what comes after it. -/
def backquoted (double : Bool) : Bytes → Bytes → Option (Bytes × Bytes)
  | _, [] => none
  | out, b :: rest =>
    if b == byte '\x60' then some (out.reverse, rest)
    else if b == byte '\\' then
      match rest with
      | c :: rest =>
        if c == byte '\\' || c == byte '\x60' || c == byte '$' || (double && c == byte '"') then
          backquoted double (c :: out) rest
        else if c == byte '\n' then backquoted double out rest
        else backquoted double (c :: b :: out) rest
      | [] => none
    else backquoted double (b :: out) rest

/-- The variable and the value of a word that is an assignment. -/
def assignment? (w : Word) : Option (Bytes × Word) :=
  match w with
  | .literal b false :: rest =>
    let name := b.takeWhile isNameByte
    let after := b.drop name.length
    if isName name ∧ after.head? = some (byte '=') then
      some (name, if after.tail.isEmpty then rest else .literal after.tail false :: rest)
    else none
  | _ => none

/-- The word for all arguments. -/
def allArguments : Word := [.parameter (text "@") .value [] true]

/-- The names that no function may have. -/
def specialNames : List Bytes :=
  [".", ":", "break", "continue", "eval", "exec", "exit", "export", "readonly", "return", "set", "shift", "times",
    "trap", "unset"].map text

namespace Reader

/-- The commands one after the other. -/
def append (before : Option Command) (c : Command) : Option Command :=
  match before with
  | none => some c
  | some b => some (.sequence b c)

mutual

/-- Reads the parts of a word up to its end, in reverse. `braces` says that a closing brace ends it, and
`depth` counts the open brackets of an expression. -/
def parts (q : Quoting) (braces : Bool) (depth : Nat) : Nat → Word → Reader Word
  | 0, _ => fail (text "Word too deep")
  | fuel + 1, out => do
    match ← peek with
    | none =>
      if braces then fail (text "Missing '\x7d'")
      else if q = .double then fail (text "Unterminated quoted string")
      else if q = .sum then fail (text "Missing '))'")
      else return out
    | some b =>
      if b == byte '\\' then
        pass
        match ← peek with
        | none => parts q braces depth fuel (addText out b true)
        | some c =>
          pass
          if c == byte '\n' then parts q braces depth fuel out
          else if q.escapes braces c then parts q braces depth fuel (addText out c true)
          else parts q braces depth fuel (addText (addText out b true) c true)
      else if b == byte '$' then
        pass
        parts q braces depth fuel ((← dollar q fuel) :: out)
      else if b == byte '\x60' then
        pass
        let s ← get
        match backquoted (q = .double) [] s.rest with
        | none => fail (text "EOF in backquote substitution")
        | some (inner, rest) =>
          let (c, after) ← (match (list .free false none fuel).run { rest := inner, line := s.line, documents := s.documents } with
            | .ok r => pure r
            | .error e => throw e : Reader (Option Command × Source))
          set { s with rest, documents := after.documents, line := s.line + inner.count (byte '\n') }
          parts q braces depth fuel (.output (c.getD default) q.isQuoted :: out)
      else if braces && b == byte '\x7d' then pass; return out
      else if b == byte '"' && q ≠ .document then
        pass
        if q = .double && !braces then return out
        else
          let inner ← parts .double false 0 fuel []
          parts q braces depth fuel ((if inner.isEmpty then [.literal [] true] else inner) ++ out)
      else if b == byte '\'' && q = .plain then
        let s ← get
        let inner := s.rest.tail.takeWhile (· ≠ byte '\'')
        let rest := s.rest.drop (inner.length + 1)
        set { s with rest := rest.tail, line := s.line + inner.count (byte '\n') }
        if rest.isEmpty then fail (text "Unterminated quoted string")
        parts q braces depth fuel (.literal inner.reverse true :: out)
      else if q = .sum && b == byte '(' then pass; parts q braces (depth + 1) fuel (addText out b true)
      else if q = .sum && b == byte ')' then
        pass
        if 0 < depth then parts q braces (depth - 1) fuel (addText out b true)
        else if ← accept ')' then return out
        else fail (text "Missing '))'")
      else if q = .plain && !braces && endsWord b then return out
      else pass; parts q braces depth fuel (addText out b q.isQuoted)

/-- Reads what follows a dollar sign. -/
def dollar (q : Quoting) : Nat → Reader Part
  | 0 => fail (text "Word too deep")
  | fuel + 1 => do
    let plain (name : Bytes) : Part := .parameter name .value [] q.isQuoted
    match ← peekJoined with
    | none => return .literal [byte '$'] q.isQuoted
    | some b =>
      if b == byte '(' then
        pass
        if ← accept '(' then return .sum (settle (← parts .sum false 0 fuel [])) q.isQuoted
        else
          let c ← list .free false none fuel
          let t ← token false false fuel
          if t.isMark ")" then return .output (c.getD default) q.isQuoted else unexpected (some ")")
      else if b == byte '\x7b' then pass; braced q fuel
      else if isNameStart b then
        let name := (← get).rest.takeWhile isNameByte
        passMany name.length
        return plain name
      else if isSpecial b then pass; return plain [b]
      else return .literal [byte '$'] q.isQuoted

/-- Reads a parameter in braces after the opening one. -/
def braced (q : Quoting) : Nat → Reader Part
  | 0 => fail (text "Word too deep")
  | fuel + 1 => do
    let rest : Bytes := (← get).rest
    let bad : Reader Part := do
      discard (parts q true 0 fuel [])
      return .parameter [] .bad [] q.isQuoted
    let nameOf (r : Bytes) : Bytes :=
      match r with
      | b :: _ =>
        if isNameStart b then r.takeWhile isNameByte
        else if isDigitByte b then r.takeWhile isDigitByte
        else if isSpecial b then [b]
        else []
      | [] => []
    let counted := nameOf rest.tail
    let name := nameOf rest
    let closed := (rest.drop (counted.length + 1)).head? == some (byte '\x7d')
    if rest.head? == some (byte '#') && !counted.isEmpty && closed then
      passMany (counted.length + 2)
      return .parameter counted .length [] q.isQuoted
    else if name.isEmpty then bad
    else
      passMany name.length
      let empty ← accept ':'
      match ← peekJoined with
      | none => fail (text "Missing '\x7d'")
      | some b =>
        let word (use : Use) (q' : Quoting) : Reader Part := do
          pass
          return .parameter name use (settle (← parts q' true 0 fuel [])) q.isQuoted
        if b == byte '-' then word (.orWord empty) q
        else if b == byte '=' then word (.orSet empty) q
        else if b == byte '?' then word (.orFail empty) q
        else if b == byte '+' then word (.thenWord empty) q
        else if empty then bad
        else if b == byte '\x7d' then pass; return .parameter name .value [] q.isQuoted
        else if b == byte '#' || b == byte '%' then
          let twice := (← get).rest.tail.head? = some b
          if twice then pass
          word (.cut (b == byte '#') twice) .plain
        else bad

/-- Reads a token. `lines` says that ends of lines are passed over, and `keywords` that keywords are
looked for. -/
def token (lines keywords : Bool) : Nat → Reader Token
  | 0 => fail (text "Script too deep")
  | fuel + 1 => do
    let s ← get
    let t ← (if s.pushed then do
        set { s with pushed := false }
        return s.last
      else do
        passBlanks s.rest.length
        match ← operator? with
        | some t => return t
        | none =>
          let w := settle (← parts .plain false 0 fuel [])
          return .word w (bareText? w) : Reader Token)
    match lines, t with
    | true, .newline =>
      documents fuel
      token lines keywords fuel
    | _, t =>
      let t := if keywords then t.asKeyword else t
      modify fun s => { s with last := t }
      return t

/-- Reads the text of the here documents that wait for it. -/
def documents : Nat → Reader Unit
  | 0 => fail (text "Script too deep")
  | fuel + 1 => do
    let s ← get
    match s.waiting with
    | [] => return
    | w :: waiting =>
      let (body, lines, rest) := documentLines w.last w.strip (s.rest.length + 1) s.rest 0
      let inner ← (if w.quoted then pure [Part.literal body true]
        else
          match (parts .document false 0 fuel []).run { rest := body, line := s.line } with
          | .ok (out, _) => pure (settle out)
          | .error e => throw e : Reader Word)
      set { s with
        rest, waiting, line := s.line + lines, documents := s.documents.setIfInBounds w.number inner }
      documents fuel

/-- Reads the word of a redirect. -/
def redirectWord (t : Token) : Nat → Reader (Option Redirect)
  | 0 => fail (text "Script too deep")
  | fuel + 1 => do
    match t with
    | .redirect stream how =>
      match ← token false false fuel with
      | .word w _ => return some (.mk stream how w)
      | _ => unexpected none
    | .document stream strip =>
      match ← token false false fuel with
      | .word w _ =>
        let last := w.flatMap fun p => match p with
          | .literal b _ => b
          | _ => []
        let quoted := w.any fun p => match p with
          | .literal _ q => q
          | _ => false
        let number := (← get).documents.size
        modify fun s => { s with
          waiting := s.waiting ++ [⟨number, last, quoted, strip⟩], documents := s.documents.push [] }
        return some (.mk stream (.document number) [])
      | _ => unexpected none
    | _ => return none

/-- Reads redirects. -/
def redirects : Nat → Reader (List Redirect)
  | 0 => fail (text "Script too deep")
  | fuel + 1 => do
    match ← redirectWord (← token false true fuel) fuel with
    | some r => return r :: (← redirects fuel)
    | none => putBack; return []

/-- Reads commands up to where a list of them ends. -/
def list (extent : Extent) (started : Bool) (before : Option Command) : Nat → Reader (Option Command)
  | 0 => fail (text "Script too deep")
  | fuel + 1 => do
    match ← token (extent ≠ .line) true fuel with
    | .newline => documents fuel; return before
    | .finish => documents fuel; putBack; return before
    | t =>
      putBack
      if extent ≠ .line && (started || extent = .free) && t.endsList then return before
      let c ← andOr fuel
      match ← token false false fuel with
      | .finish => documents fuel; putBack; return append before c
      | .newline => putBack; list extent true (append before c) fuel
      | t =>
        if t.isMark "&" then list extent true (append before (.background c)) fuel
        else if t.isMark ";" then list extent true (append before c) fuel
        else if extent = .line then unexpected none
        else putBack; return append before c

/-- Reads pipelines that hang on each other's success. -/
def andOr : Nat → Reader Command
  | 0 => fail (text "Script too deep")
  | fuel + 1 => do
    let c ← pipeline false false fuel
    andOrMore c fuel

/-- Reads the pipelines after the first. -/
def andOrMore (c : Command) : Nat → Reader Command
  | 0 => fail (text "Script too deep")
  | fuel + 1 => do
    let t ← token false false fuel
    if t.isMark "&&" then andOrMore (.both c (← pipeline true true fuel)) fuel
    else if t.isMark "||" then andOrMore (.either c (← pipeline true true fuel)) fuel
    else putBack; return c

/-- Reads commands of which each reads what the one before it writes. -/
def pipeline (lines keywords : Bool) : Nat → Reader Command
  | 0 => fail (text "Script too deep")
  | fuel + 1 => do
    let t ← token lines keywords fuel
    let negated := t.isKeyword "!"
    if !negated then putBack
    let first ← command false negated fuel
    let stages ← stages fuel
    let c := if stages.isEmpty then first else .pipeline (first :: stages)
    return if negated then .negated c else c

/-- Reads the commands of a pipeline after the first. -/
def stages : Nat → Reader (List Command)
  | 0 => fail (text "Script too deep")
  | fuel + 1 => do
    if (← token false false fuel).isMark "|" then
      let c ← command true true fuel
      return c :: (← stages fuel)
    else putBack; return []

/-- Reads a list that must be there, and the keyword after it. -/
def block (close : String) : Nat → Reader Command
  | 0 => fail (text "Script too deep")
  | fuel + 1 => do
    let c ← list .body false none fuel
    if (← token false true fuel).isKeyword close then return c.getD default else unexpected (some close)

/-- Reads what follows `if` or `elif`. -/
def choice : Nat → Reader Command
  | 0 => fail (text "Script too deep")
  | fuel + 1 => do
    let condition ← block "then" fuel
    let yes := (← list .body false none fuel).getD default
    let t ← token false true fuel
    if t.isKeyword "elif" then return .choice condition yes (some (← choice fuel))
    else if t.isKeyword "else" then return .choice condition yes (some (← block "fi" fuel))
    else if t.isKeyword "fi" then return .choice condition yes none
    else unexpected (some "fi")

/-- Reads what follows `for`. -/
def each : Nat → Reader Command
  | 0 => fail (text "Script too deep")
  | fuel + 1 => do
    let line := (← get).line
    match ← token false false fuel with
    | .word _ (some name) =>
      if !isName name then fail (text "Bad for loop variable")
      let t ← token true true fuel
      let words ← (if t.isKeyword "in" then do
          let words ← wordList fuel
          let ended := match (← get).last with
            | .newline => true
            | t => t.isMark ";"
          if ended then return words else unexpected none
        else do
          if !t.isMark ";" then putBack
          return [allArguments] : Reader (List Word))
      if (← token true true fuel).isKeyword "do" then return .each line name words (← block "done" fuel)
      else unexpected (some "do")
    | _ => fail (text "Bad for loop variable")

/-- Reads words. -/
def wordList : Nat → Reader (List Word)
  | 0 => fail (text "Script too deep")
  | fuel + 1 => do
    match ← token false false fuel with
    | .word w _ => return w :: (← wordList fuel)
    | _ => return []

/-- Reads what follows `case`. -/
def select : Nat → Reader Command
  | 0 => fail (text "Script too deep")
  | fuel + 1 => do
    match ← token false false fuel with
    | .word w _ =>
      if (← token true true fuel).isKeyword "in" then return .select w (← arms fuel) else unexpected (some "in")
    | _ => fail ((← get).last.name ++ text " unexpected (expecting word)")

/-- Reads the patterns and commands of a selection, up to its end. -/
def arms : Nat → Reader (List (List Word × Option Command))
  | 0 => fail (text "Script too deep")
  | fuel + 1 => do
    let t ← token true true fuel
    if t.isKeyword "esac" then return []
    let t ← if t.isMark "(" then token false false fuel else pure t
    let ps ← patterns t fuel
    if !(← get).last.isMark ")" then unexpected (some ")")
    let c ← list .free false none fuel
    let t ← token true true fuel
    if t.isKeyword "esac" then return [(ps, c)]
    else if t.isMark ";;" then return (ps, c) :: (← arms fuel)
    else unexpected (some ";;")

/-- Reads the patterns of an arm, the first of which has been read, and the token after them. -/
def patterns (t : Token) : Nat → Reader (List Word)
  | 0 => fail (text "Script too deep")
  | fuel + 1 => do
    let p : Word := match t with
      | .word w _ => w
      | .keyword b => [.literal b false]
      | _ => []
    if (← token false false fuel).isMark "|" then
      let t ← token false false fuel
      return p :: (← patterns t fuel)
    else return [p]

/-- Reads a command. -/
def command (lines keywords : Bool) : Nat → Reader Command
  | 0 => fail (text "Script too deep")
  | fuel + 1 => do
    let t ← token lines keywords fuel
    match t with
    | .word .. | .redirect .. | .document .. => putBack; simple fuel
    | _ =>
      let c ← (if t.isKeyword "if" then choice fuel
        else if t.isKeyword "while" then loop true fuel
        else if t.isKeyword "until" then loop false fuel
        else if t.isKeyword "for" then each fuel
        else if t.isKeyword "case" then select fuel
        else if t.isMark "(" then do
          let c ← list .body false none fuel
          if (← token false true fuel).isMark ")" then return .subshell (c.getD default) else unexpected (some ")")
        else if t.isKeyword "\x7b" then block "\x7d" fuel
        else unexpected none : Reader Command)
      let rs ← redirects fuel
      return if rs.isEmpty then c else .redirected c rs

/-- Reads what follows `while` or `until`. -/
def loop (holds : Bool) : Nat → Reader Command
  | 0 => fail (text "Script too deep")
  | fuel + 1 => do
    let condition ← block "do" fuel
    return .loop holds condition (← block "done" fuel)

/-- Reads a simple command or the definition of a function. -/
def simple : Nat → Reader Command
  | 0 => fail (text "Script too deep")
  | fuel + 1 => do
    simpleMore (← get).line [] [] [] fuel

/-- Reads what is left of a simple command. What has been read is in reverse. -/
def simpleMore (line : Nat) (given : List (Bytes × Word)) (words : List (Word × Option Bytes))
    (rs : List Redirect) : Nat → Reader Command
  | 0 => fail (text "Script too deep")
  | fuel + 1 => do
    let t ← token false false fuel
    let done : Reader Command := do
      putBack
      return .simple line given.reverse (words.reverse.map (·.1)) rs.reverse
    match t with
    | .word w bare =>
      match words, assignment? w with
      | [], some a => simpleMore line (a :: given) words rs fuel
      | _, _ => simpleMore line given ((w, bare) :: words) rs fuel
    | .redirect .. | .document .. =>
      match ← redirectWord t fuel with
      | some r => simpleMore line given words (r :: rs) fuel
      | none => done
    | _ =>
      match words, given, rs with
      | [(_, bare)], [], [] =>
        if t.isMark "(" then
          if !(← token false false fuel).isMark ")" then unexpected (some ")")
          match bare.filter fun n => isName n && !specialNames.elem n with
          | some name => return .define name (← command true true fuel)
          | none => fail (text "Bad function name")
        else done
      | _, _, _ => done

end

end Reader

/-- The commands up to the end of a line that ends them, and what comes after them. Nothing is left where
the script is over. -/
def nextCommand (s : Source) : Except Malformed (Option Command × Source) := do
  (Reader.list .line false none (16 * s.rest.length + 64)).run { s with pushed := false }

end AuditShell.World.Script
