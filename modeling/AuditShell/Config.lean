import AuditShell.OsError
import AuditShell.Path
import AuditShell.Yaml.Value
/-!
# Configuration

The settings of the shell, with their defaults, and how a YAML text changes them. A null leaves a
setting as it was, and unknown names are passed over. `Config.violations` lists the rules that
settings break, in the order of the settings.
-/
namespace AuditShell

/-- Where the line loop keeps its history, and how many lines of it. -/
structure Config.History where
  file : Bytes
  limit : Int := 1000
  deriving DecidableEq, Repr

/-- Whether lines are logged, and where. -/
structure Config.Auditing where
  enabled : Bool := false
  path : Bytes
  deriving DecidableEq, Repr

/-- The settings. -/
structure Config where
  /-- The template of the prompt. -/
  prompt : Bytes := text "> "
  /-- The path of a script that gives the prompt, or nothing. -/
  promptScript : Bytes := []
  history : Config.History
  audit : Config.Auditing
  /-- Whether the output of a line is held back until the line is over. -/
  captureOutput : Bool := false
  color : Bytes := text "auto"
  debug : Bool := false
  deriving DecidableEq, Repr

namespace Config

/-- A path below the home directory, which may be unknown and then is empty. -/
def below (home : Bytes) (names : List String) : Bytes := Path.join (home :: names.map text)

/-- The settings where nothing is configured. -/
def default (home : Bytes) : Config where
  history := { file := below home [".local", "share", "crsh", "history"] }
  audit := { path := below home [".local", "share", "crsh", "audit.jsonl"] }

/-- Where the configuration is looked for. -/
def standardPath (home : Bytes) : Bytes := below home [".config", "crsh", "config.yaml"]

/-- A path with the home directory for a tilde at its start. -/
def expandHome (home path : Bytes) : Bytes :=
  match path with
  | 0x7E :: rest => Path.join [home, rest]
  | _ => path

/-! ## Rules -/

/-- A rule that settings break. -/
inductive Violation where
  /-- There is neither a prompt nor a script for it. -/
  | noPrompt
  /-- The history has a negative length. -/
  | negativeLimit
  /-- Lines are to be logged nowhere. -/
  | noAuditPath
  /-- The colour is none of the three words. -/
  | unknownColor
  deriving DecidableEq, Repr

namespace Violation

/-- The sections above a setting and its name. -/
def place : Violation → List String × String
  | .noPrompt => ([], "prompt")
  | .negativeLimit => (["history"], "limit")
  | .noAuditPath => (["audit"], "path")
  | .unknownColor => ([], "color")

/-- The name of the rule. -/
def rule : Violation → String
  | .noPrompt => "required_without"
  | .negativeLimit => "gte"
  | .noAuditPath => "required_if"
  | .unknownColor => "oneof"

/-- The full name of the setting. -/
def field (v : Violation) : Bytes :=
  text (String.intercalate "." ("Config" :: v.place.1 ++ [v.place.2]))

/-- The message of a broken rule. -/
def message (v : Violation) : Bytes :=
  text "Key: '" ++ v.field ++ text "' Error:Field validation for '" ++ text v.place.2 ++ text "' failed on the '" ++
    text v.rule ++ text "' tag"

end Violation

/-- The words for the use of colour. -/
def colors : List Bytes := [text "auto", text "always", text "never"]

/-- The rules that the settings break. -/
def violations (c : Config) : List Violation :=
  (if c.prompt = [] ∧ c.promptScript = [] then [.noPrompt] else []) ++
  (if c.history.limit < 0 then [.negativeLimit] else []) ++
  (if c.audit.enabled ∧ c.audit.path = [] then [.noAuditPath] else []) ++
  (if c.color ∉ colors then [.unknownColor] else [])

/-- The lines that tell about broken rules. -/
def report (vs : List Violation) : Bytes := Bytes.join (text "\n") (vs.map Violation.message)

/-! ## Reading -/

/-- A setting from the fields of a section, or what it was. -/
def setting {α : Type} (fields : List (Bytes × Yaml.Node)) (name : String)
    (read : Yaml.Node → Option (Option α)) (was : α) : Option α :=
  match fields.lookup (text name) with
  | none => some was
  | some n => (read n).map (·.getD was)

/-- The names of the settings outside the sections, and of the sections. -/
def topNames : List Bytes :=
  ["prompt", "prompt_script", "history", "audit", "capture_output", "color", "debug"].map text

/-- The names of the settings of the history. -/
def historyNames : List Bytes := ["file", "limit"].map text

/-- The names of the settings of the log. -/
def auditNames : List Bytes := ["enabled", "path"].map text

/-- The settings with the changes that a document makes. -/
def withDocument (c : Config) (d : Yaml.Document) : Option Config := do
  let top := (← d.fieldsAt topNames d.root).getD []
  let history ← setting top "history" (d.fieldsAt historyNames) []
  let audit ← setting top "audit" (d.fieldsAt auditNames) []
  return {
    prompt := ← setting top "prompt" d.textAt c.prompt
    promptScript := ← setting top "prompt_script" d.textAt c.promptScript
    history := {
      file := ← setting history "file" d.textAt c.history.file
      limit := ← setting history "limit" d.intAt c.history.limit }
    audit := {
      enabled := ← setting audit "enabled" d.boolAt c.audit.enabled
      path := ← setting audit "path" d.textAt c.audit.path }
    captureOutput := ← setting top "capture_output" d.boolAt c.captureOutput
    color := ← setting top "color" d.textAt c.color
    debug := ← setting top "debug" d.boolAt c.debug }

/-- The settings with the changes that a text makes. -/
def withText (c : Config) (source : Bytes) : Option Config := do
  match ← Yaml.Document.parse? source with
  | none => return c
  | some d => c.withDocument d

/-- The settings with their paths made absolute in the home directory. -/
def settlePaths (home : Bytes) (c : Config) : Config :=
  { c with
    promptScript := expandHome home c.promptScript
    history := { c.history with file := expandHome home c.history.file }
    audit := { c.audit with path := expandHome home c.audit.path } }

/-- Why no settings can be had. -/
inductive LoadFailure where
  | unreadable (e : OsError)
  | malformed (path : Bytes)
  | invalid (path : Bytes) (vs : List Violation)
  deriving DecidableEq, Repr

/-- The message of a failure. -/
def LoadFailure.message : LoadFailure → Bytes
  | .unreadable e => text "read config: " ++ e.message
  | .malformed p => text "parse config " ++ p
  | .invalid p vs => text "invalid config " ++ p ++ text ": " ++ report vs

/-- The settings that the file at a path gives. Without the file they are the defaults. -/
def load (home path : Bytes) (content : Except OsError Bytes) : Except LoadFailure Config :=
  match content with
  | .error e => if e.isMissing then .ok (default home) else .error (.unreadable e)
  | .ok source =>
    match (default home).withText source with
    | none => .error (.malformed path)
    | some c =>
      let c := settlePaths home c
      match c.violations with
      | [] => .ok c
      | vs => .error (.invalid path vs)

end Config

end AuditShell
