import AuditShell.Json.Parse
import AuditShell.Runner
/-!
# The tool server

The shell as a tool for other programs. A call of the tool `run` runs one line and is answered with
what the line wrote and its status, or with the message of its failure. The calls come as JSON
messages, one a line, and share one session.
-/
namespace AuditShell.ToolServer

/-- The name of the server. -/
def serverName : Bytes := text "crsh"

/-- The version of the server. -/
def serverVersion : Bytes := text "dev"

/-- The name of the tool that runs a line. -/
def runTool : Bytes := text "run"

/-- The code of a request with unusable parameters. -/
def invalidParams : Int := -32602

/-- The code of a request that names no method. -/
def unknownMethod : Int := -32601

/-- The code of a message that is not JSON. -/
def unreadable : Int := -32700

/-- The answer to a call. -/
inductive Reply where
  /-- The call worked and gave a text. -/
  | text (body : Bytes)
  /-- The call failed with a message. -/
  | failed (message : Bytes)
  /-- There is no such tool. -/
  | unknownTool
  deriving DecidableEq, Repr

/-- How a call ends. -/
inductive CallEnd where
  | replied (r : Reply)
  | terminated (code : Int)
  | crashed
  deriving DecidableEq, Repr

/-- What a line left, as the text of a reply. -/
def resultText (result : Option Result) (error : Option LineError) : Bytes :=
  let r := result.getD {}
  let exited := (error.bind LineError.exitCode?).isSome
  Json.Value.compact (.object ([(text "stdout", .string r.stdout),
    (text "stderr", .string r.stderr),
    (text "exit_code", .number (Bytes.ofInt (lineStatus result error)))] ++
    (if exited then [(text "exited", .bool true)] else [])))

/-- The reply to a line that is over. A failure other than an exit hides what the line wrote. -/
def lineReply (result : Option Result) (error : Option LineError) : Reply :=
  match error with
  | some e =>
    if e.exitCode?.isSome then .text (resultText result error)
    else .failed (text "crsh: " ++ e.message)
  | none => .text (resultText result error)

/-- The value of a member, the last one where there are several. -/
def member? (name : String) : Json.Value → Option Json.Value
  | .object ms => (ms.reverse.find? (·.1 = text name)).map (·.2)
  | _ => none

/-- The line that the arguments of a call hold. -/
def lineOf (arguments : Json.Value) : Except Bytes Bytes :=
  match member? "line" arguments with
  | none => .error (text "required argument \"line\" not found")
  | some (.string l) => .ok l
  | some _ => .error (text "argument \"line\" is not a string")

section

variable {σ : Type} (m : Machine σ) (set : Settings) (rec : Recorder σ)

/-- Calls a tool. -/
def call (tool : Bytes) (arguments : Json.Value) (s : Session σ) : CallEnd × Session σ :=
  if tool ≠ runTool then (.replied .unknownTool, s)
  else
    match lineOf arguments with
    | .error e => (.replied (.failed e), s)
    | .ok line =>
      match runLine m set rec line s with
      | (.returned result error, s) => (.replied (lineReply result error), s)
      | (.terminated code, s) => (.terminated code, s)
      | (.crashed, s) => (.crashed, s)

/-! ## Messages -/

/-- An object with the given members. -/
def object (ms : List (String × Json.Value)) : Json.Value := .object (ms.map fun (k, v) => (text k, v))

/-- A text in JSON. -/
def str (s : String) : Json.Value := .string (text s)

/-- The message that answers a request with a result. -/
def resultMessage (id result : Json.Value) : Json.Value :=
  object [("jsonrpc", str "2.0"), ("id", id), ("result", result)]

/-- The message that answers a request with an error. -/
def errorMessage (id : Json.Value) (code : Int) (words : Bytes) : Json.Value :=
  object [("jsonrpc", str "2.0"), ("id", id),
    ("error", object [("code", .number (Bytes.ofInt code)), ("message", .string words)])]

/-- What the server says about itself. -/
def greeting (version : Json.Value) : Json.Value :=
  object [("protocolVersion", version), ("capabilities", object [("tools", object [])]),
    ("serverInfo", object [("name", .string serverName), ("version", .string serverVersion)])]

/-- The description of the tool. -/
def toolList : Json.Value :=
  object [("tools", .array [object [
    ("description", str ("Run one crsh command line (pipes, < > >> redirects, ; sequences, cd, exit) and return " ++
      "its captured output and exit status.")),
    ("inputSchema", object [
      ("properties", object [("line", object [
        ("description", str "The command line to run"), ("type", str "string")])]),
      ("required", .array [str "line"]), ("type", str "object")]),
    ("name", .string runTool)]])]

/-- The message for a reply. -/
def replyMessage (id : Json.Value) (tool : Bytes) : Reply → Json.Value
  | .text b => resultMessage id (object [("content", .array [object [("type", str "text"), ("text", .string b)]])])
  | .failed b => resultMessage id (object [
      ("content", .array [object [("type", str "text"), ("text", .string b)]]), ("isError", .bool true)])
  | .unknownTool => errorMessage id invalidParams
      (text "tool '" ++ tool ++ text "' not found: tool not found")

/-- How the handling of a message ends: with an answer, if the message asks for one. -/
inductive MessageEnd where
  | answered (message : Option Json.Value)
  | terminated (code : Int)
  | crashed

/-- Handles a message. A message without an identifier is a notice and gets no answer. -/
def handle (message : Bytes) (s : Session σ) : MessageEnd × Session σ :=
  match Json.Value.parse message with
  | none => (.answered (some (errorMessage .null unreadable (text "Parse error"))), s)
  | some v =>
    match member? "id" v, member? "method" v with
    | some id, some (.string method) =>
      let params := (member? "params" v).getD .null
      if method = text "initialize" then
        (.answered (some (resultMessage id (greeting ((member? "protocolVersion" params).getD .null)))), s)
      else if method = text "ping" then (.answered (some (resultMessage id (object []))), s)
      else if method = text "tools/list" then (.answered (some (resultMessage id toolList)), s)
      else if method = text "tools/call" then
        let tool := match member? "name" params with
          | some (.string t) => t
          | _ => []
        match call m set rec tool ((member? "arguments" params).getD .null) s with
        | (.replied r, s) => (.answered (some (replyMessage id tool r)), s)
        | (.terminated code, s) => (.terminated code, s)
        | (.crashed, s) => (.crashed, s)
      else (.answered (some (errorMessage id unknownMethod
        (text "Method " ++ method ++ text " not found"))), s)
    | _, _ => (.answered none, s)

end

end AuditShell.ToolServer
