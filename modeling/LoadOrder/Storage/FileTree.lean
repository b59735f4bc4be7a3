import LoadOrder.Storage.Disk

/-!
# File trees

Files in directories, held in memory, and the disk that they make up: a path is followed part by part
from the directory at the root. Names are told apart by letter case, and the way leads through every
part, so that one that is missing is not made good by a step back.
-/

namespace LoadOrder.Storage

/-- A file, or a directory with named entries. -/
inductive FileTree where
  | file (content : ByteArray)
  | directory (entries : List (String × FileTree))

namespace FileTree

/-- A directory without entries. -/
def empty : FileTree := .directory []

/-! ### Building -/

/-- The parts of a path that name something. -/
def names (path : String) : List String :=
  ((Text.splitAtEach '/' path.toList).filter fun part => part ≠ [] && part ≠ ['.']).map
    String.ofList

/-- The entries with another tree under a name. -/
def putEntry (name : String) (tree : FileTree) (entries : List (String × FileTree)) :
    List (String × FileTree) :=
  entries.filter (·.1 ≠ name) ++ [(name, tree)]

/-- The tree with a change at the end of the way along names; directories that are missing on the way
are made. -/
def alter (f : FileTree → FileTree) : (names : List String) → FileTree → FileTree
  | [], tree => f tree
  | _ :: _, .file content => .file content
  | name :: names, .directory entries =>
    .directory (putEntry name (alter f names ((entries.lookup name).getD empty)) entries)

def addDirectory (tree : FileTree) (path : String) : FileTree :=
  tree.alter (fun found => found) (names path)

def addFile (tree : FileTree) (path : String) (content : ByteArray) : FileTree :=
  tree.alter (fun _ => .file content) (names path)

/-! ### Following paths -/

/-- The most bytes that a name may have. -/
def maxNameBytes : Nat := 255

/-- The most bytes that a path may have. -/
def maxPathBytes : Nat := 4095

def fileName? : String × FileTree → Option String
  | (name, .file _) => some name
  | (_, .directory _) => none

/-- What a tree is to one who finds it. -/
def found : FileTree → Found
  | .file content => .file content
  | .directory entries => .directory (entries.filterMap fileName?)

/-- What the parts of a path lead to from a tree, where `above` are the directories around it, innermost
first. Around the outermost one lies an empty directory. -/
def walk : (above : List FileTree) → FileTree → (parts : List String) → Found
  | _, tree, [] => tree.found
  | _, .file _, _ :: _ => .nothing .notADirectory
  | above, .directory entries, part :: parts =>
    if part = "" ∨ part = "." then walk above (.directory entries) parts
    else if part = ".." then walk above.tail (above.head?.getD empty) parts
    else if maxNameBytes < part.utf8ByteSize then .nothing .nameTooLong
    else match entries.lookup part with
      | none => .nothing .notFound
      | some tree => walk (.directory entries :: above) tree parts

/-- What a path leads to, from the root of the tree or, if it begins with a slash, from outside of the
tree. -/
def look (tree : FileTree) (path : String) : Found :=
  let parts := (Text.splitAtEach '/' path.toList).map String.ofList
  if path = "" then .nothing .notFound
  else if path.toList.contains '\x00' then .nothing .nulInPath
  else if maxPathBytes < path.utf8ByteSize then .nothing .nameTooLong
  else if path.startsWith "/" then walk [] empty parts
  else walk [] tree parts

/-- The disk that the tree makes up. -/
def disk (tree : FileTree) : Disk := ⟨tree.look⟩

end FileTree

end LoadOrder.Storage
