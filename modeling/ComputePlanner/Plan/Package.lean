import ComputePlanner.Elf.EntryPoint
import ComputePlanner.Plan.Artifacts

/-! # Packaging
A package is a container with a program's linked binary and the artifacts planned for it. It is
checked for what a loader needs before it is handed out. -/

namespace ComputePlanner

/-- The package of a program whose threads start at `start`. -/
def ProgramConfig.packageAt (c : ProgramConfig) (start : UInt64) (binary : Bytes) :
    Except PlanError Container := do
  let artifacts ← c.generate start
  let draft ← artifacts.containerDraft binary
  let container := draft.finish
  container.validate
  return container

/-- The package of a program; its threads start where the binary says. -/
def ProgramConfig.package (c : ProgramConfig) (binary : Bytes) : Except PlanError Container := do
  let start ← (entryPoint binary).mapError PlanError.entryPoint
  c.packageAt start binary

end ComputePlanner
