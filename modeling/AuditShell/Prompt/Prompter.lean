import AuditShell.OsError
import AuditShell.Prompt.Script.Eval
import AuditShell.Prompt.Template
/-!
# Prompts

A prompt comes from a script if there is one and from a template otherwise. A script that fails is
reported, and the template stands in for it.
-/
namespace AuditShell.Prompt

/-- Why a script cannot be loaded. -/
inductive LoadFailure where
  | unreadable (e : OsError)
  | broken
  | noPrompt (path : Bytes)
  deriving DecidableEq, Repr

/-- The message of a failure to load. -/
def LoadFailure.message : LoadFailure → Bytes
  | .unreadable e => text "load prompt script: " ++ e.message
  | .broken => text "load prompt script"
  | .noPrompt p => text "load prompt script " ++ p ++ text ": no prompt function defined"

/-- Why a script gives no prompt. -/
inductive RenderFailure where
  | failed (path : Bytes)
  | wrongType (path typeName : Bytes)
  deriving DecidableEq, Repr

/-- The message of a failure to give a prompt. -/
def RenderFailure.message : RenderFailure → Bytes
  | .failed p => text "prompt script " ++ p
  | .wrongType p t => text "prompt script " ++ p ++ text ": prompt returned " ++ t ++ text ", want string"

/-- A loaded script with its path. -/
structure PromptScript where
  path : Bytes
  loaded : Script.Loaded

/-- Loads the script with a content. Gives what the script prints besides. -/
def PromptScript.load (path user host : Bytes) (content : Except OsError Bytes) :
    Except LoadFailure PromptScript × Bytes :=
  match content with
  | .error e => (.error (.unreadable e), [])
  | .ok source =>
    match Script.load user host source with
    | (.ok l, printed) => (.ok ⟨path, l⟩, printed)
    | (.error .broken, printed) => (.error .broken, printed)
    | (.error .noPrompt, printed) => (.error (.noPrompt path), printed)

/-- What gives the prompt. -/
structure Prompter where
  template : Bytes
  script : Option PromptScript := none

/-- The prompt, with the failure of the script if it failed. -/
def Prompter.render (p : Prompter) (v : Vars) : Bytes × Option RenderFailure :=
  match p.script with
  | none => (expand v p.template, none)
  | some s =>
    match s.loaded.call v.cwd v.status with
    | .text t => (t, none)
    | .failed => (expand v p.template, some (.failed s.path))
    | .wrongType t => (expand v p.template, some (.wrongType s.path t))

end AuditShell.Prompt
