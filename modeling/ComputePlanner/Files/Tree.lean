import ComputePlanner.Files.Store

/-! # A tree of files in memory
A folder and what is in it, so that commands can be run without a file system. Around the folder are
others, up to the root, of which no more is known than what every system has.

A path is kept as the names that lead to it: from the folder, from the `n`-th folder around it
behind `n` names `".."`, or from the root behind a name `"/"`. No file has a name of these two.

Main definitions: **`FileTree`**, **`FileTree.follow`** and its **`FileStore`** instance. -/

namespace ComputePlanner

/-- The files in a folder, by the names that lead to them, and the folders in it. -/
structure FileTree where
  files : List (List String × Bytes)
  folders : List (List String)
  deriving Repr

namespace FileTree

/-! ## What is there -/

/-- The folders around a path. -/
def around (path : List String) : List (List String) :=
  (List.range path.length).map fun n => path.take n

/-- The root of all folders. -/
def root : List String := ["/"]

/-- The file of every system that is empty and stays so. -/
def emptyDevice : List String := root ++ ["dev", "null"]

/-- The folders that every system has at its root. -/
def systemFolders : List (List String) := [root ++ ["dev"], root ++ ["tmp"]]

/-- A folder with some files. -/
def ofFiles (files : List (String × Bytes)) : FileTree :=
  let files := files.map fun f => ((Path.steps f.1).filter (· ≠ "."), f.2)
  ⟨files, systemFolders ++ files.flatMap fun f => around f.1⟩

/-- The contents of the file at a path. -/
def file? (t : FileTree) (path : List String) : Option Bytes :=
  if path = emptyDevice then some [] else t.files.lookup path

/-- Whether a path is that of the folder, of one around it or of the root. -/
def isAround (path : List String) : Bool := path.all (· = "..") || path = root

/-- Whether there is a folder at a path. -/
def hasFolder (t : FileTree) (path : List String) : Bool := isAround path || t.folders.contains path

/-- Whether a path leads into the folder. -/
def isInside (path : List String) : Bool := path.head? ≠ some ".." && path.head? ≠ root.head?

/-! ## Paths -/

/-- Where a path leads. -/
inductive Place
  | file (path : List String)
  | folder (path : List String)
  /-- Nowhere yet, but the folder for it is there. -/
  | free (path : List String)
  deriving DecidableEq, Repr

/-- The folder around a folder; the root has none but itself. -/
def outer (folder : List String) : List String :=
  if folder = root then root
  else if isAround folder then folder ++ [".."]
  else folder.dropLast

/-- Bytes that a name has at most. -/
def maxNameSize : Nat := 255

/-- Bytes that a path has at most. -/
def maxPathSize : Nat := 4095

/-- Follows the parts of a path from a folder. If a file is to be made, a slash must not be behind
its name, whether it is there or not. -/
def follow (t : FileTree) (making : Bool) (folder : List String) :
    List String → Except FileFault Place
  | [] => .ok (.folder folder)
  | part :: rest =>
    if part = "" ∨ part = "." then t.follow making folder rest
    else if part = ".." then t.follow making (outer folder) rest
    else
      let path := folder ++ [part]
      if making && !rest.isEmpty && rest.all (· = "") then .error .isDirectory
      else if part.utf8ByteSize > maxNameSize then .error .nameTooLong
      else if t.hasFolder path then t.follow making path rest
      else if (t.file? path).isSome then
        if rest.isEmpty then .ok (.file path) else .error .notDirectory
      else if rest.all (· = "") then .ok (.free path)
      else .error .notFound

/-- Follows the parts of a path that may start at the root, if the path has not too many bytes. -/
def locate (t : FileTree) (making : Bool) (path : String) (parts : List String) :
    Except FileFault Place :=
  if path.isEmpty then .error .notFound
  else if path.utf8ByteSize > maxPathSize then .error .nameTooLong
  else t.follow making (if Path.isAbsolute path then root else []) parts

/-! ## Operations -/

/-- The contents of a file. -/
def read (t : FileTree) (path : String) : Except FileFault Bytes := do
  match ← t.locate false path (Path.parts path) with
  | .file path => return (t.file? path).getD []
  | .folder _ => throw .isDirectory
  | .free _ => throw .notFound

/-- Puts contents at the path of a file. -/
def put (t : FileTree) (path : List String) (data : Bytes) : FileTree :=
  { t with files := (path, data) :: t.files.filter (·.1 ≠ path) }

/-- Makes a file, or replaces its contents. -/
def write (t : FileTree) (path : String) (data : Bytes) : Except FileFault FileTree := do
  match ← t.locate true path (Path.parts path) with
  | .file path | .free path => return t.put path data
  | .folder _ => throw .isDirectory

/-- Makes a folder; slashes behind its name do not matter. -/
def makeFolder (t : FileTree) (path : String) : Except FileFault FileTree := do
  let parts := ((Path.parts path).reverse.dropWhile (· = "")).reverse
  match ← t.locate false path parts with
  | .free path => return { t with folders := path :: t.folders }
  | .file _ | .folder _ => throw .exists

/-- The files that are in the folder, and were not before. -/
def newFiles (t before : FileTree) : List (List String × Bytes) :=
  t.files.filter fun f => isInside f.1 && (before.file? f.1).isNone

/-- Changes the tree if a change can be made. -/
def change (f : FileTree → Except FileFault FileTree) : StateM FileTree (Except FileFault Unit) :=
  fun t =>
    match f t with
    | .ok t => (.ok (), t)
    | .error e => (.error e, t)

instance : FileStore (StateM FileTree) where
  read path := fun t => (t.read path, t)
  write path data := change (·.write path data)
  makeFolder path := change (·.makeFolder path)

end FileTree

end ComputePlanner
