import LoadOrder.Name
import LoadOrder.Text.Search

/-!
# Paths

A path is a text whose components are separated by slashes. Empty components and components that are
a single dot do not count, except that a path may begin at the root or with a dot.
-/

namespace LoadOrder.Storage

/-- The components of a path that count, in order; a leading dot is one of them if the path does not
begin at the root. -/
def components (path : String) : List String :=
  match Text.splitAtEach '/' path.toList with
  | [] => []
  | first :: rest =>
    let kept := (rest.filter fun part => part ≠ [] && part ≠ ['.']).map String.ofList
    if first = [] then kept else String.ofList first :: kept

/-- The name of the file that a path leads to, if the path ends in a name. -/
def fileName? (path : String) : Option String :=
  match (components path).getLast? with
  | some ".." => none
  | some "." => none
  | last => last

/-- The part of a file name after its last dot, if a dot stands beyond the first character. -/
def extension? (path : String) : Option String :=
  match (fileName? path).map fun name => Text.splitAtEach '.' name.toList with
  | none | some [] | some [_] | some [[], _] => none
  | some parts => parts.getLast?.map String.ofList

/-- A path followed from a directory: it replaces the directory if it begins at the root. -/
def join (directory path : String) : String :=
  if path.startsWith "/" then path
  else if directory.isEmpty || directory.endsWith "/" then directory ++ path
  else directory ++ "/" ++ path

end LoadOrder.Storage
