import AuditShell.Token.Scan
import AuditShell.Tree
/-!
# Parsing tokens

`Tree.ofTokens` reads a token list by the grammar

    program  := pipeline (";" pipeline)* end
    pipeline := command ("|" command)*
    command  := word+ redirect*
    redirect := "<" word | ">" word | ">>" word | ">" ">" word

and stops at the end mark: what follows it is not looked at. The reader is one pass over the tokens
that knows which of five places of the grammar it stands at.
-/
namespace AuditShell

/-- The causes for which a token list is not a program, known by their numbers. -/
inductive ParseError.Kind where
  | unexpectedToken
  | tokensLeft
  | outOfBounds
  | other (n : Int)
  deriving DecidableEq, Repr

/-- Why a token list is not a program, with the token at which this shows. -/
structure ParseError where
  kind : ParseError.Kind
  token : Token
  detail : Bytes
  deriving DecidableEq, Repr

namespace ParseError

/-- The cause with the given number. -/
def Kind.ofInt (n : Int) : Kind :=
  if n = 0 then .unexpectedToken else if n = 1 then .tokensLeft else if n = 2 then .outOfBounds
  else .other n

/-- How a cause is called. -/
def Kind.name : Kind → Bytes
  | .unexpectedToken => text "unexpected token"
  | .tokensLeft => text "tokens not parsed"
  | .outOfBounds => text "index out of bounds"
  | .other n => text "parse error(" ++ Bytes.ofInt n ++ text ")"

/-- The message of a parse error. -/
def message (e : ParseError) : Bytes :=
  text "parse: " ++ e.kind.name ++
    (if e.kind = .outOfBounds then []
      else text " " ++ e.token.render ++ text " at position " ++ Bytes.ofInt e.token.pos) ++
    text ": " ++ e.detail

/-- The tokens end before the program does. -/
def endOfTokens : ParseError :=
  ⟨.outOfBounds, ⟨.word, [], 0⟩, text "lookahead past end of tokens"⟩

/-- A command must start with a word. -/
def commandName (t : Token) : ParseError := ⟨.unexpectedToken, t, text "expected a command name"⟩

/-- A redirect must be followed by a file name. -/
def fileName (kind : Redirect.Kind) (t : Token) : ParseError :=
  ⟨.unexpectedToken, t, text "expected a file name after " ++ quoted kind.name⟩

/-- The program is over and this token is not the end mark. -/
def leftOver (t : Token) : ParseError := ⟨.tokensLeft, t, text "not all tokens were parsed"⟩

end ParseError

/-- Why a line is not a program. -/
inductive SyntaxError where
  | scan (e : ScanError)
  | parse (e : ParseError)
  deriving DecidableEq, Repr

/-- The message of a failure to read a line. -/
def SyntaxError.message : SyntaxError → Bytes
  | .scan e => e.message
  | .parse e => e.message

namespace Tree

/-- A place in the grammar. -/
inductive Place where
  /-- A command must start here. -/
  | command
  /-- After the first word of a command: more words, redirects or the end of the command. -/
  | words
  /-- After a redirect: more redirects or the end of the command. -/
  | redirects
  /-- After the operator of a redirect: its file name. -/
  | file (kind : Redirect.Kind)
  /-- After a single `>`: a second one, or a file name. -/
  | angle
  deriving DecidableEq, Repr

/-- What has been read so far, latest first: the pipelines before the current one, the commands
before the current one, and the current command. -/
structure Progress where
  pipelines : List Pipeline := []
  commands : List Command := []
  words : List Bytes := []
  redirects : List Redirect := []
  deriving DecidableEq, Repr

namespace Progress

/-- A word joins the current command. -/
def addWord (p : Progress) (w : Bytes) : Progress := { p with words := w :: p.words }

/-- A redirect joins the current command. -/
def addRedirect (p : Progress) (r : Redirect) : Progress := { p with redirects := r :: p.redirects }

/-- The current command is over. -/
def endCommand (p : Progress) : Progress :=
  { p with
    commands := ⟨p.words.reverse, p.redirects.reverse⟩ :: p.commands
    words := []
    redirects := [] }

/-- The current command and pipeline are over. -/
def endPipeline (p : Progress) : Progress :=
  let q := p.endCommand
  { q with pipelines := q.commands.reverse :: q.pipelines, commands := [] }

/-- The whole line is over. -/
def tree (p : Progress) : Tree := ofPipelines p.endPipeline.pipelines.reverse

end Progress

/-- What happens at the end of a command: the next command, the next pipeline, or the end. -/
inductive Next where
  | go (place : Place) (p : Progress)
  | stop (r : Except ParseError Tree)

/-- Reads a token that is neither a word nor a redirect where a command may end. -/
def afterCommand (p : Progress) (t : Token) : Next :=
  match t.kind with
  | .pipe => .go .command p.endCommand
  | .separator => .go .command p.endPipeline
  | .finish => .stop (.ok p.tree)
  | _ => .stop (.error (.leftOver t))

/-- Reads a redirect operator or the end of the command. -/
def atRedirect (p : Progress) (t : Token) : Next :=
  match t.kind with
  | .input => .go (.file .input) p
  | .output => .go .angle p
  | .append => .go (.file .append) p
  | _ => afterCommand p t

/-- Reads the file name of a redirect. -/
def atFile (kind : Redirect.Kind) (p : Progress) (t : Token) : Next :=
  match t.kind with
  | .word => .go .redirects (p.addRedirect ⟨kind, t.word⟩)
  | _ => .stop (.error (.fileName kind t))

/-- Reads one token at a place. -/
def readToken (place : Place) (p : Progress) (t : Token) : Next :=
  match place with
  | .command =>
    match t.kind with
    | .word => .go .words (p.addWord t.word)
    | _ => .stop (.error (.commandName t))
  | .words =>
    match t.kind with
    | .word => .go .words (p.addWord t.word)
    | _ => atRedirect p t
  | .redirects => atRedirect p t
  | .file kind => atFile kind p t
  | .angle =>
    match t.kind with
    | .output => .go (.file .append) p
    | _ => atFile .output p t

/-- Reads the tokens from a place on. -/
def ofTokensFrom : Place → Progress → List Token → Except ParseError Tree
  | _, _, [] => .error .endOfTokens
  | place, p, t :: ts =>
    match readToken place p t with
    | .go place' p' => ofTokensFrom place' p' ts
    | .stop r => r

/-- The tree of a token list. -/
def ofTokens (ts : List Token) : Except ParseError Tree := ofTokensFrom .command {} ts

/-- The tree of a line. -/
def ofLine (line : Bytes) : Except SyntaxError Tree :=
  match Token.scan line with
  | .error e => .error (.scan e)
  | .ok ts =>
    match ofTokens ts with
    | .error e => .error (.parse e)
    | .ok t => .ok t

end Tree

end AuditShell
