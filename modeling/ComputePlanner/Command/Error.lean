import ComputePlanner.Plan.Error

/-! # Faults of commands
A command that fails says what it was doing and why that failed. The reasons form a **chain**: each
link is the cause of the one before it. The first link is shown on its own and the others below it,
numbered if there are several (`CommandError.render`). -/

namespace ComputePlanner

/-- What a command was doing. -/
inductive Task
  | readingEntryPoint (path : String)
  | loading (path : String)
  | readingContainer (path : String)
  | reading (path : String)
  | metadataImage
  | networkImage
  | programDescriptor
  | constantsDescriptor
  | networkDescriptor
  deriving DecidableEq, Repr

/-- The wording of a task. -/
def Task.text : Task → String
  | readingEntryPoint path => "reading entry point from " ++ path
  | loading path => "loading " ++ path
  | readingContainer path => "reading container " ++ path
  | reading path => "reading " ++ path
  | metadataImage => "metadata image"
  | networkImage => "network descriptor image"
  | programDescriptor => "program descriptor"
  | constantsDescriptor => "constants descriptor"
  | networkDescriptor => "network descriptor"

/-- Why a command fails. -/
inductive CommandError
  /-- A program cannot be planned or packaged. -/
  | plan (fault : PlanError)
  /-- An artifact cannot be used. -/
  | artifact (fault : FormatError)
  /-- A file cannot be read. -/
  | file (fault : FileFault)
  /-- A container lacks an image. -/
  | noImage (path name : String)
  /-- A task fails. -/
  | during (task : Task) (cause : CommandError)
  deriving DecidableEq, Repr

/-- The chain of an artifact's fault. -/
def FormatError.chain (e : FormatError) : List String :=
  e.message ::
    match e with
    | .file fault => [fault.message]
    | _ => []

/-- The chain of a planning fault. -/
def PlanError.chain (e : PlanError) : List String :=
  e.message ::
    match e with
    | .artifact fault => fault.chain
    | .file fault => [fault.message]
    | _ => []

namespace CommandError

/-- The chain of a fault. -/
def chain : CommandError → List String
  | plan fault => fault.chain
  | artifact fault => fault.chain
  | file fault => [fault.message]
  | noImage path name => [path ++ " has no " ++ name]
  | during task cause => task.text :: cause.chain

/-- A text with blanks behind each line break. -/
def indent (blanks : String) (text : String) : String :=
  String.join (text.toList.map fun c => if c = '\n' then "\n" ++ blanks else c.toString)

/-- A cause without a number. -/
def onlyCause (text : String) : String := "\n    " ++ indent "    " text

/-- A cause with its number. -/
def numberedCause (number : Nat) (text : String) : String :=
  "\n" ++ padLeft 5 ' ' (toString number) ++ ": " ++ indent "       " text

/-- The causes of a fault. -/
def causes : List String → String
  | [] => ""
  | [cause] => "\n\nCaused by:" ++ onlyCause cause
  | links => "\n\nCaused by:" ++ String.join (links.mapIdx numberedCause)

/-- What is shown of a fault. -/
def render (e : CommandError) : String :=
  match e.chain with
  | [] => ""
  | first :: rest => "Error: " ++ first ++ causes rest ++ "\n"

end CommandError

namespace CommandError

/-- A step of planning as a command's step. -/
def planning {α : Type} (r : Except PlanError α) : Except CommandError α := r.mapError .plan

/-- A step with an artifact as a command's step. -/
def handling {α : Type} (r : Except FormatError α) : Except CommandError α := r.mapError .artifact

end CommandError

/-- Says what was being done when a fault came up. -/
def Task.label {α : Type} (task : Task) (r : Except CommandError α) : Except CommandError α :=
  r.mapError (.during task)

end ComputePlanner
