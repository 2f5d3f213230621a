import ComputePlanner.Artifact.Error
import ComputePlanner.Files.Path

/-! # Files as commands use them
Commands read and write files through a **`FileStore`**: the file system, or a tree of files in
memory. Everything that is built from these operations is the same for both. -/

namespace ComputePlanner

/-- Files that a computation can read and write. -/
class FileStore (m : Type → Type) where
  /-- The contents of a file. -/
  read : String → m (Except FileFault Bytes)
  /-- Makes a file, or replaces its contents. -/
  write : String → Bytes → m (Except FileFault Unit)
  /-- Makes a folder in one that is there. -/
  makeFolder : String → m (Except FileFault Unit)

namespace FileStore

variable {m : Type → Type} [Monad m] [FileStore m]

/-- Whether a path leads to a folder: that is what reading it as a file finds out. -/
def isFolder (path : String) : m Bool := do
  match ← read path with
  | .error .isDirectory => return true
  | _ => return false

/-- Makes a folder where one may be already. -/
def ensureFolder (path : String) : m (Except FileFault Unit) := do
  match ← makeFolder path with
  | .ok () => return .ok ()
  | .error e => if ← isFolder path then return .ok () else return .error e

/-- Makes a folder and at most `depth` folders around it. -/
def createWithin : (depth : Nat) → String → m (Except FileFault Unit)
  | 0, _ => return .ok ()
  | depth + 1, path => do
    if path.isEmpty then return .ok ()
    match ← ensureFolder path with
    | .ok () => return .ok ()
    | .error .notFound =>
      match ← createWithin depth (Path.parent path) with
      | .ok () => ensureFolder path
      | .error e => return .error e
    | .error e => return .error e

/-- Makes a folder and the folders around it, as far as they are not there. -/
def createFolders (path : String) : m (Except FileFault Unit) :=
  createWithin (path.length + 1) path

end FileStore

end ComputePlanner
