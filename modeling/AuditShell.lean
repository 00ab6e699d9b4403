import AuditShell.Audit.Chain
import AuditShell.Audit.Entry
import AuditShell.Audit.Log
import AuditShell.Audit.Memory
import AuditShell.Audit.Report
import AuditShell.Builtin
import AuditShell.CommandLine
import AuditShell.CommandLine.Flag
import AuditShell.CommandLine.Request
import AuditShell.Config
import AuditShell.DebugLog
import AuditShell.Digest
import AuditShell.Execute.Line
import AuditShell.Execute.Pipeline
import AuditShell.Execute.Shell
import AuditShell.Failure
import AuditShell.Instant
import AuditShell.Interrupts
import AuditShell.Json.Parse
import AuditShell.Json.Value
import AuditShell.Machine
import AuditShell.Main
import AuditShell.Number.Binary64
import AuditShell.Number.Double
import AuditShell.Number.Duration
import AuditShell.Number.Literal
import AuditShell.Number.Word
import AuditShell.OsError
import AuditShell.Path
import AuditShell.Prompt.Prompter
import AuditShell.Prompt.Script.Collection
import AuditShell.Prompt.Script.Compare
import AuditShell.Prompt.Script.Eval
import AuditShell.Prompt.Script.Format
import AuditShell.Prompt.Script.Operator
import AuditShell.Prompt.Script.Parse
import AuditShell.Prompt.Script.Resolve
import AuditShell.Prompt.Script.Standard
import AuditShell.Prompt.Script.Syntax
import AuditShell.Prompt.Script.Text
import AuditShell.Prompt.Script.Token
import AuditShell.Prompt.Script.Value
import AuditShell.Prompt.Template
import AuditShell.Proofs.Carry
import AuditShell.Proofs.Chain
import AuditShell.Proofs.Checks
import AuditShell.Proofs.Deeds
import AuditShell.Proofs.Delivery
import AuditShell.Proofs.Displaced
import AuditShell.Proofs.Double
import AuditShell.Proofs.Dump
import AuditShell.Proofs.Entry
import AuditShell.Proofs.Exit
import AuditShell.Proofs.ExitHook
import AuditShell.Proofs.Failing
import AuditShell.Proofs.FrontEnds
import AuditShell.Proofs.Grammar
import AuditShell.Proofs.Head
import AuditShell.Proofs.HookCalls
import AuditShell.Proofs.Instant
import AuditShell.Proofs.Journal
import AuditShell.Proofs.Json
import AuditShell.Proofs.Ledger
import AuditShell.Proofs.Log
import AuditShell.Proofs.Loop
import AuditShell.Proofs.Malformed
import AuditShell.Proofs.Moves
import AuditShell.Proofs.Numeral
import AuditShell.Proofs.Outcome
import AuditShell.Proofs.Output
import AuditShell.Proofs.Print
import AuditShell.Proofs.Quoted
import AuditShell.Proofs.ReadBack
import AuditShell.Proofs.Recording
import AuditShell.Proofs.Redirects
import AuditShell.Proofs.Resume
import AuditShell.Proofs.RoundTrip
import AuditShell.Proofs.Scan
import AuditShell.Proofs.Seams
import AuditShell.Proofs.Sequence
import AuditShell.Proofs.Sharing
import AuditShell.Proofs.Spacing
import AuditShell.Proofs.Steps
import AuditShell.Proofs.Template
import AuditShell.Proofs.Text
import AuditShell.Proofs.Transcript
import AuditShell.Proofs.Unseen
import AuditShell.Proofs.Viable
import AuditShell.Proofs.Wiring
import AuditShell.Proofs.Written
import AuditShell.Repl
import AuditShell.Runner
import AuditShell.Text.Base64
import AuditShell.Text.Blank
import AuditShell.Text.Bytes
import AuditShell.Text.Letter
import AuditShell.Text.Printable
import AuditShell.Text.Quoted
import AuditShell.Text.Run
import AuditShell.Token
import AuditShell.Token.Scan
import AuditShell.ToolServer
import AuditShell.Tree
import AuditShell.Tree.Draft
import AuditShell.Tree.Parse
import AuditShell.Tree.Print
import AuditShell.World.Disk
import AuditShell.World.Host
import AuditShell.World.Machine
import AuditShell.World.Options
import AuditShell.World.Program
import AuditShell.World.Quote
import AuditShell.World.Script
import AuditShell.World.Script.Condition
import AuditShell.World.Script.Expand
import AuditShell.World.Script.Own
import AuditShell.World.Script.Parse
import AuditShell.World.Script.Pattern
import AuditShell.World.Script.Run
import AuditShell.World.Script.State
import AuditShell.World.Script.Sum
import AuditShell.World.Script.Syntax
import AuditShell.World.Script.Token
import AuditShell.World.Tool
import AuditShell.World.Tool.Copy
import AuditShell.World.Tool.Count
import AuditShell.World.Tool.Format
import AuditShell.World.Tool.Listing
import AuditShell.World.Tool.Order
import AuditShell.World.Tool.Quantity
import AuditShell.World.Tool.Substitute
import AuditShell.World.Tool.Version
import AuditShell.World.Tool.Write
import AuditShell.Yaml.Cursor
import AuditShell.Yaml.Node
import AuditShell.Yaml.Scalar
import AuditShell.Yaml.Token
import AuditShell.Yaml.Value
