import AuditShell.Text.Bytes
/-!
# Prompt templates

A template is shown with `\u`, `\h`, `\w` and `\$` replaced by the user, the host, the working
directory and the mark of an ordinary or privileged user. Replacement is one pass from left to right,
and what is put in is never looked at again.
-/
namespace AuditShell.Prompt

/-- What a prompt can show. -/
structure Vars where
  user : Bytes := []
  host : Bytes := []
  cwd : Bytes := []
  home : Bytes := []
  root : Bool := false
  status : Int := 0
  deriving DecidableEq, Repr

namespace Vars

/-- The working directory with the home directory shown as `~`. -/
def shortCwd (v : Vars) : Bytes :=
  if v.home ≠ [] ∧ (v.cwd = v.home ∨ (v.home ++ text "/").isPrefixOf v.cwd) then
    text "~" ++ v.cwd.drop v.home.length
  else v.cwd

/-- What stands for a letter after a backslash. -/
def value? (v : Vars) (letter : UInt8) : Option Bytes :=
  if letter = 0x75 then some v.user
  else if letter = 0x68 then some v.host
  else if letter = 0x77 then some v.shortCwd
  else if letter = 0x24 then some (if v.root then text "#" else text "$")
  else none

end Vars

/-- A template with its values put in. -/
def expand (v : Vars) : Bytes → Bytes
  | 0x5C :: c :: rest =>
    match v.value? c with
    | some t => t ++ expand v rest
    | none => 0x5C :: expand v (c :: rest)
  | b :: rest => b :: expand v rest
  | [] => []

end AuditShell.Prompt
