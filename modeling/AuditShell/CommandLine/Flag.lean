import AuditShell.Audit.Report
import AuditShell.Number.Duration
import AuditShell.Number.Literal
/-!
# Commands and their flags

The commands of the program, the flags that each of them takes, and the faults in how a command line
uses them.
-/
namespace AuditShell.CommandLine

/-- A command. -/
inductive Command where
  /-- Runs lines: one that is given, or those of the input. -/
  | shell
  /-- The commands about the audit log. -/
  | audit
  | verify
  | tail
  /-- Serves the shell as a tool. -/
  | serve
  deriving DecidableEq, Repr

namespace Command

/-- How a command is called. -/
def path : Command → Bytes
  | .shell => text "crsh"
  | .audit => text "crsh audit"
  | .verify => text "crsh audit verify"
  | .tail => text "crsh audit tail"
  | .serve => text "crsh mcp"

/-- The commands below a command, by name. -/
def children : Command → List (Bytes × Command)
  | .shell => [(text "audit", .audit), (text "mcp", .serve)]
  | .audit => [(text "verify", .verify), (text "tail", .tail)]
  | _ => []

end Command

/-- What a flag is for. -/
inductive Flag where
  /-- The line to run. -/
  | line
  /-- The path of the configuration. -/
  | config
  | debug
  | version
  /-- How many entries to show. -/
  | lines
  /-- After how long without a call the server ends. -/
  | idleTimeout
  deriving DecidableEq, Repr

namespace Flag

/-- The name of a flag. -/
def name : Flag → Bytes
  | .line => text "command"
  | .config => text "config"
  | .debug => text "debug"
  | .version => text "version"
  | .lines => text "lines"
  | .idleTimeout => text "idle-timeout"

/-- The letter of a flag. -/
def letter? : Flag → Option UInt8
  | .line => some 0x63
  | .version => some 0x76
  | .lines => some 0x6E
  | _ => none

/-- Whether a flag stands without a value. -/
def isSwitch : Flag → Bool
  | .debug | .version => true
  | _ => false

/-- How a message names a flag. -/
def title (f : Flag) : Bytes :=
  match f.letter? with
  | some c => text "-" ++ [c] ++ text ", --" ++ f.name
  | none => text "--" ++ f.name

end Flag

/-- The flags by which a command is found. -/
def Command.searchFlags : Command → List Flag
  | .shell => [.line, .config, .debug]
  | .audit | .verify => [.config, .debug]
  | .tail => [.lines, .config, .debug]
  | .serve => [.idleTimeout, .config, .debug]

/-- The flags that a command takes. -/
def Command.flags : Command → List Flag
  | .shell => .version :: searchFlags .shell
  | c => c.searchFlags

/-- What is wrong with the value of a flag. -/
inductive ValueFault where
  | notBool
  | notInt (fault : Literal.Fault)
  | notDuration (fault : Duration.Fault)
  deriving DecidableEq, Repr

/-- The words for what is wrong with a value. -/
def ValueFault.words (value : Bytes) : ValueFault → Bytes
  | .notBool => text "strconv.ParseBool: parsing " ++ quoted value ++ text ": invalid syntax"
  | .notInt f => text "strconv.ParseInt: parsing " ++ quoted value ++ text ": " ++ f.words
  | .notDuration f => f.message

/-- What is wrong with a command line. -/
inductive UsageError where
  | unknownFlag (name : Bytes)
  | badSyntax (argument : Bytes)
  | unknownLetter (letter : UInt8) (letters : Bytes)
  | noValue (argument : Bytes)
  | noLetterValue (letter : UInt8) (letters : Bytes)
  | badValue (flag : Flag) (value : Bytes) (fault : ValueFault)
  | unknownCommand (argument : Bytes) (command : Command)
  deriving DecidableEq, Repr

/-- The message of a usage error. -/
def UsageError.message : UsageError → Bytes
  | .unknownFlag n => text "unknown flag: --" ++ n
  | .badSyntax a => text "bad flag syntax: " ++ a
  | .unknownLetter c ls => text "unknown shorthand flag: " ++ quotedChar c.toNat ++ text " in -" ++ ls
  | .noValue a => text "flag needs an argument: " ++ a
  | .noLetterValue c ls => text "flag needs an argument: " ++ quotedChar c.toNat ++ text " in -" ++ ls
  | .badValue f v fault => text "invalid argument " ++ quoted v ++ text " for " ++ quoted f.title ++ text " flag: " ++
      fault.words v
  | .unknownCommand a c => text "unknown command " ++ quoted a ++ text " for " ++ quoted c.path

/-- The truth value that a text says. -/
def truth? (value : Bytes) : Option Bool :=
  if (["1", "t", "T", "TRUE", "true", "True"].map text).elem value then some true
  else if (["0", "f", "F", "FALSE", "false", "False"].map text).elem value then some false
  else none

end AuditShell.CommandLine
