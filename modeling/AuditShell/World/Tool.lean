import AuditShell.World.Tool.Copy
import AuditShell.World.Tool.Count
import AuditShell.World.Tool.Listing
import AuditShell.World.Tool.Order
import AuditShell.World.Tool.Substitute
import AuditShell.World.Tool.Format
/-!
# The tools by name

The text tools, with `ls`, `sleep`, `true` and `false`.
-/
namespace AuditShell.World.Tool

open Program

/-- Whether a text says a time: a number that is not negative, and perhaps a unit. -/
def isDuration (a : Bytes) : Bool :=
  match quantity? a with
  | some (.finite negative n _, rest) => (!negative || n = 0) && isUnit rest
  | some (.infinite negative, rest) => !negative && isUnit rest
  | _ => false
where
  isUnit (rest : Bytes) : Bool := ["", "s", "m", "h", "d"].any fun u => text u = rest

/-- Waits for a time, which passes at once here. -/
def sleep (e : Surroundings) (args : List Bytes) : Outcome :=
  let u := ({ long := Options.common } : Options).read args
  match u.fault with
  | some d => misused e "sleep" 1 d
  | none =>
    if u.operands.isEmpty then misused e "sleep" 1 (text "missing operand")
    else
      let bad := u.operands.filter fun a => !isDuration a
      if bad.isEmpty then { disk := e.disk }
      else complains e 1
        (bad.flatMap (fun a => text "sleep: invalid time interval " ++ Quote.quote a ++ text "\n") ++ hint "sleep")

/-- The tools by name. -/
def named? (name : Bytes) : Option (Surroundings → List Bytes → Outcome) :=
  if name = text "echo" then some echo
  else if name = text "printf" then some printf
  else if name = text "cat" then some cat
  else if name = text "tr" then some tr
  else if name = text "wc" then some wc
  else if name = text "sort" then some sort
  else if name = text "head" then some head
  else if name = text "ls" then some ls
  else if name = text "sleep" then some sleep
  else if name = text "true" then some fun e _ => { disk := e.disk }
  else if name = text "false" then some fun e _ => { disk := e.disk, ended := .code 1 }
  else none

end AuditShell.World.Tool
