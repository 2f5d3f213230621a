import ComputePlanner.Command.Run

/-! # The command line
Commands run on the files of the system. A fault is shown on standard error, behind whatever was
printed before it. -/

namespace ComputePlanner

/-- The fault of a code and its description; some calls of the system negate the code. -/
def faultOfCode (code : UInt32) (details : String) : FileFault :=
  match (if code.toInt32 < 0 then 0 - code else code) with
  | 2 => .notFound
  | 17 => .exists
  | 20 => .notDirectory
  | 21 => .isDirectory
  | 36 => .nameTooLong
  | code => .other s!"{details} (os error {code})"

/-- The fault that a system error stands for. -/
def faultOfSystem : IO.Error → FileFault
  | .noFileOrDirectory _ code details => faultOfCode code details
  | .alreadyExists _ code details => faultOfCode code details
  | .inappropriateType _ code details => faultOfCode code details
  | .permissionDenied _ code details => faultOfCode code details
  | .invalidArgument _ code details => faultOfCode code details
  | e => .other (toString e)

/-- What came of an operation on the system's files. -/
def attempt {α : Type} (operation : IO α) : IO (Except FileFault α) := do
  try return .ok (← operation)
  catch e => return .error (faultOfSystem e)

instance : FileStore IO where
  read path := attempt do return (← IO.FS.readBinFile path).toList
  write path data := attempt (IO.FS.writeBinFile path ⟨data.toArray⟩)
  makeFolder path := attempt (IO.FS.createDir path)

end ComputePlanner

open ComputePlanner in
/-- Runs the command that the arguments ask for. -/
def main (args : List String) : IO UInt32 := do
  match Command.ofArguments args with
  | .error reply =>
    IO.print reply.output
    IO.eprint reply.report
    return reply.status
  | .ok command =>
    let outcome : Outcome ← command.run
    IO.print outcome.output
    IO.eprint outcome.report
    return outcome.status
