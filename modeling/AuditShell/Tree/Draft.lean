import AuditShell.Tree.Print
/-!
# Trees handed over by a caller

A caller may hand over a tree that no line reads as: the root, a pipeline or a command may be
missing. A tree of a line is a draft with nothing missing.
-/
namespace AuditShell

/-- The commands of a pipeline, some of which may be missing. -/
abbrev Stages := List (Option Command)

/-- A tree in which parts may be missing. -/
inductive Draft where
  /-- No tree at all. -/
  | missing
  /-- A pipeline that is missing. -/
  | noPipeline
  /-- A sequence that is missing. -/
  | noSequence
  | pipeline (stages : Stages)
  | sequence (pipelines : List (Option Stages))
  deriving DecidableEq, Repr

namespace Stages

/-- The pipeline with nothing missing. -/
def ofPipeline (p : Pipeline) : Stages := p.map some

/-- The commands if none is missing. -/
def pipeline? : Stages → Option Pipeline
  | [] => some []
  | none :: _ => none
  | some c :: cs => (pipeline? cs).map (c :: ·)

end Stages

namespace Draft

/-- The draft of a tree. -/
def ofTree : Tree → Draft
  | .pipeline p => .pipeline (Stages.ofPipeline p)
  | .sequence ps => .sequence (ps.map fun p => some (Stages.ofPipeline p))

/-- The tree if nothing is missing. -/
def tree? : Draft → Option Tree
  | .pipeline p => p.pipeline?.map .pipeline
  | .sequence ps => (ps.mapM fun (p : Option Stages) => p.bind Stages.pipeline?).map .sequence
  | _ => none

end Draft

end AuditShell
