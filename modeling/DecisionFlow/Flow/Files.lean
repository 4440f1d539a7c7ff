/-!
# Files

A tree of files, and how a path finds its way in it. A path is a list of names separated by
slashes; it starts at the root. Every name but the last has to be a directory, and so has what a
slash follows.
-/
namespace DecisionFlow

/-- Why a path leads to no file. -/
inductive FileError where
  /-- There is nothing. -/
  | missing
  /-- There is a directory. -/
  | directory
  /-- There is a file where a directory has to be. -/
  | notDirectory
deriving DecidableEq, Repr

/-- The wording of a file error. -/
def FileError.message : FileError → String
  | .missing => "No such file or directory (os error 2)"
  | .directory => "Is a directory (os error 21)"
  | .notDirectory => "Not a directory (os error 20)"

/-- The parts of a path between its slashes. -/
def pathParts (path : String) : List String := path.splitOn "/"

/-- Files with their paths from the root. -/
structure FileTree where
  /-- The names on the way to each file, with its text. -/
  files : List (List String × String)

namespace FileTree

/-- The tree of files under the given paths. -/
def ofPaths (files : List (String × String)) : FileTree :=
  ⟨files.map fun (path, text) => ((pathParts path).filter (· != ""), text)⟩

/-- Whether some names lead to a directory. -/
def isDirectory (tree : FileTree) (names : List String) : Bool :=
  names.isEmpty ||
    tree.files.any fun file => names.isPrefixOf file.1 && names.length < file.1.length

/-- The file that some names lead to. -/
def file? (tree : FileTree) (names : List String) : Option String :=
  (tree.files.find? (·.1 == names)).map (·.2)

/-- Why some names do not lead to a directory. -/
def obstacle (tree : FileTree) (names : List String) : FileError :=
  if (tree.file? names).isSome then .notDirectory else .missing

/-- Follow one part of a path from a directory. -/
def step (tree : FileTree) (names : List String) (part : String) :
    Except FileError (List String) :=
  if !tree.isDirectory names then .error (tree.obstacle names)
  else if part == "" || part == "." then .ok names
  else if part == ".." then .ok names.dropLast
  else .ok (names ++ [part])

/-- The text of the file at a path. -/
def read (tree : FileTree) (path : String) : Except FileError String := do
  if path.isEmpty then throw .missing
  let names ← (pathParts path).foldlM tree.step []
  match tree.file? names with
  | some text => return text
  | none => throw (if tree.isDirectory names then .directory else .missing)

end FileTree

/-- The name that a path ends with; none when that is the parent directory. -/
def fileName? (path : String) : Option String := do
  let name ← ((pathParts path).filter fun part => part != "" && part != ".").getLast?
  if name == ".." then none else some name

/-- The extension of a file name: what follows its last point, if that is not its only point and
first character. -/
def extension? (path : String) : Option String := do
  let backwards := (← fileName? path).toList.reverse
  match backwards.dropWhile (· != '.') with
  | _ :: _ :: _ => some (String.ofList (backwards.takeWhile (· != '.')).reverse)
  | _ => none

end DecisionFlow
