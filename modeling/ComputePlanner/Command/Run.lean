import ComputePlanner.Command.Arguments
import ComputePlanner.Command.Listing
import ComputePlanner.Config.Json
import ComputePlanner.Files.Store
import ComputePlanner.Metadata.Dump
import ComputePlanner.Plan.Package

/-! # Running commands
A command reads files, decides, and writes files. What it decides is a function of the contents it
read (`checkContainer`, `metadataIn`, `containerSections`, `entryPointAt`); only reading and writing
depend on where the files are.

Main definitions: **`Outcome`** and **`Command.run`**. -/

namespace ComputePlanner

/-- What a command leaves beside files. -/
structure Outcome where
  /-- What it prints. -/
  output : String
  /-- Why it stopped early, if it did. -/
  fault : Option CommandError
  deriving DecidableEq, Repr

namespace Outcome

/-- The outcome of a command that prints all or nothing. -/
def ofResult : Except CommandError String → Outcome
  | .ok output => ⟨output, none⟩
  | .error fault => ⟨"", some fault⟩

/-- The outcome of a command that prints its sections up to one that fails. -/
def ofSections : List (Except CommandError String) → Outcome
  | [] => ⟨"", none⟩
  | .error fault :: _ => ⟨"", some fault⟩
  | .ok text :: rest =>
    let rest := ofSections rest
    ⟨text ++ rest.output, rest.fault⟩

/-- Whether the command did what it was asked to do. -/
def isSuccess (o : Outcome) : Bool := o.fault.isNone

/-- The exit status: 0 for a success, 1 for a failure. -/
def status (o : Outcome) : UInt32 := if o.isSuccess then 0 else 1

/-- What is shown of the fault. -/
def report (o : Outcome) : String :=
  match o.fault with
  | some fault => fault.render
  | none => ""

end Outcome

/-! ## What is decided from contents -/

open CommandError (planning handling)

/-- The container in a file that was read from a path. -/
def containerAt (path : String) (contents : Except FileFault Bytes) :
    Except CommandError Container :=
  let container : Except FormatError Container := do
    Container.decode (← contents.mapError FormatError.file)
  (Task.readingContainer path).label (handling container)

/-- Checks the container in a file: it can be loaded, and the documents in it can be read. -/
def checkContainer (path : String) (contents : Except FileFault Bytes) :
    Except CommandError String := do
  let c ← containerAt path contents
  handling c.validate
  if let some image := c.image? Image.metadataName then
    let _ ← Task.metadataImage.label (handling (readMetadata image.data))
  if let some image := c.image? Image.networkName then
    let _ ← Task.networkImage.label (planning (NetworkDescriptor.decode image.data))
  return s!"{path}: OK ({c.images.length} images)\n"

/-- The metadata document in a file: the file is one, or a container that holds one. -/
def metadataIn (path : String) (contents : Except FileFault Bytes) :
    Except CommandError Metadata := do
  let data ← (Task.reading path).label (contents.mapError CommandError.file)
  if Container.magic.isPrefixOf data then
    let c ← handling (Container.decode data)
    match c.image? Image.metadataName with
    | some image => handling (readMetadata image.data)
    | none => throw (.noImage path Image.metadataName)
  else handling (readMetadata data)

/-- The sections about the container in a file. -/
def containerSections (path : String) (contents : Except FileFault Bytes) :
    List (Except CommandError String) :=
  match containerAt path contents with
  | .ok c => c.sections
  | .error e => [.error e]

/-- The start address in a binary that was read from a path. -/
def entryPointAt (path : String) (contents : Except FileFault Bytes) :
    Except CommandError UInt64 :=
  let start : Except PlanError UInt64 := do
    (entryPoint (← contents.mapError PlanError.file)).mapError PlanError.entryPoint
  (Task.readingEntryPoint path).label (planning start)

/-! ## Commands -/

section

variable {m : Type → Type} [Monad m] [FileStore m]

/-- What was read of a file; a fault is left to whoever uses the contents. -/
def contentsOf (path : String) : ExceptT CommandError m (Except FileFault Bytes) :=
  ExceptT.lift (FileStore.read path)

/-- Writes a file; `cause` says whose fault it is if that fails. -/
def writeFile (cause : FileFault → PlanError) (path : String) (data : Bytes) :
    ExceptT CommandError m Unit := do
  let written ← ExceptT.lift (FileStore.write path data)
  ofExcept (planning (written.mapError cause))

/-- Writes the artifacts of a program into a folder, which is made if it is not there. The metadata
document comes first; that it cannot be written is an artifact's fault. -/
def writeArtifacts (folder : String) (a : Artifacts) : ExceptT CommandError m Unit := do
  let made ← ExceptT.lift (FileStore.createFolders folder)
  ofExcept (planning (made.mapError PlanError.file))
  writeFile (fun e => .artifact (.file e)) (Path.join folder Image.metadataName) a.metadata.bytes
  for (name, data) in a.loaderFiles do
    writeFile .file (Path.join folder name) data

/-- The address at which threads start. -/
def EntrySource.resolve : EntrySource → ExceptT CommandError m UInt64
  | .address a => return a
  | .binary path => do ofExcept (entryPointAt path (← contentsOf path))

/-- Plans a program and writes its artifacts. -/
def runPlan (config : String) (entry : EntrySource) (folder : String) :
    ExceptT CommandError m String := do
  let start ← entry.resolve
  let contents ← contentsOf config
  let c ← ofExcept ((Task.loading config).label (planning (ProgramConfig.ofFile contents)))
  let artifacts ← ofExcept (planning (c.generate start))
  writeArtifacts folder artifacts
  return planSummary c.name start artifacts.metadata.metadata folder

/-- Plans a program and packages it with its binary. -/
def runPackage (config binary output : String) : ExceptT CommandError m String := do
  let c ← ofExcept (planning (ProgramConfig.ofFile (← contentsOf config)))
  let data ← ofExcept (planning ((← contentsOf binary).mapError PlanError.file))
  let container ← ofExcept (planning (c.package data))
  writeFile (fun e => .artifact (.file e)) output container.encode
  return packageSummary container output

/-- Runs a command. -/
def Command.run : Command → m Outcome
  | .plan config entry folder => return .ofResult (← (runPlan config entry folder).run)
  | .package config binary output => return .ofResult (← (runPackage config binary output).run)
  | .validate path => return .ofResult (checkContainer path (← FileStore.read path))
  | .dump path => return .ofResult ((metadataIn path (← FileStore.read path)).map (·.dump))
  | .inspect path => return .ofSections (containerSections path (← FileStore.read path))

end

end ComputePlanner
