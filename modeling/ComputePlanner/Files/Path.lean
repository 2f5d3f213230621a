/-! # Paths
A path is a text with slashes between its parts. Where a path leads is up to the files it is used
on; this module only takes it apart. -/

namespace ComputePlanner

namespace Path

/-- The texts between slashes, given the one that is being read, newest character first. -/
def splitFrom (part : List Char) : List Char → List String
  | [] => [String.ofList part.reverse]
  | c :: cs =>
    if c = '/' then String.ofList part.reverse :: splitFrom [] cs else splitFrom (c :: part) cs

/-- The texts between slashes; some may be empty. -/
def parts (path : String) : List String := splitFrom [] path.toList

/-- Whether a path starts at the root of the file system. -/
def isAbsolute (path : String) : Bool := path.toList.head? = some '/'

/-- The parts of a path that lead anywhere: empty ones do not, and neither does a dot behind another
part. -/
def steps (path : String) : List String :=
  match parts path with
  | [] => []
  | first :: rest => (first :: rest.filter (· ≠ ".")).filter (· ≠ "")

/-- The path without its last step. -/
def parent (path : String) : String :=
  (if isAbsolute path then "/" else "") ++ "/".intercalate (steps path).dropLast

/-- A name in a folder. -/
def join (folder name : String) : String :=
  if folder.toList.getLast? = some '/' then folder ++ name else folder ++ "/" ++ name

end Path

end ComputePlanner
