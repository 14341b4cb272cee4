/-! Paths of files. -/

namespace PromptKernel.Path

def isAbsolute (path : String) : Bool := path.toList.head? == some '/'

/-- The path seen from a directory. An absolute path does not depend on it. -/
def join (directory path : String) : String :=
  if isAbsolute path then path
  else
    match directory.toList.getLast? with
    | none | some '/' => directory ++ path
    | some _ => directory ++ "/" ++ path

/-- The parts of a path, without the empty ones and those that stay where they are. -/
def parts (path : String) : List String :=
  ((split [] path.toList).filter fun part => part ≠ [] ∧ part ≠ ['.']).map String.ofList
where
  split (done : List Char) : List Char → List (List Char)
    | [] => [done.reverse]
    | c :: rest => if c = '/' then done.reverse :: split [] rest else split (c :: done) rest

/-- Whether the path can only mean a directory. -/
def isDirectory (path : String) : Bool :=
  let last := (parts.split [] path.toList).getLast?.getD []
  last = [] ∨ last = ['.'] ∨ last = ['.', '.']

end PromptKernel.Path
