import LoadOrder.Storage.Error
import LoadOrder.Storage.Path

/-!
# Disks

A disk is what paths lead to. Nothing here depends on how a path is followed, only on where it ends.
-/

namespace LoadOrder.Storage

/-- What a path leads to. -/
inductive Found where
  | file (content : ByteArray)
  /-- A directory, with the names of the files directly inside it in any order. -/
  | directory (files : List String)
  | nothing (obstacle : Obstacle)

/-- What paths lead to. -/
structure Disk where
  look : String → Found

namespace Disk

/-- Whether a path leads to a file or a directory. -/
def has (disk : Disk) (path : String) : Bool :=
  match disk.look path with
  | .nothing _ => false
  | _ => true

/-- Whether a path leads somewhere from a directory. -/
def hasIn (disk : Disk) (directory : String) (path : String) : Bool :=
  disk.has (join directory path)

/-- The text of the file at a path, read for an operation. -/
def readText (disk : Disk) (operation path : String) : Except Error String :=
  match disk.look path with
  | .file content =>
    match String.fromUTF8? content with
    | some text => .ok text
    | none => .error (.io operation path .notText)
  | .directory _ => .error (.io operation path .isADirectory)
  | .nothing obstacle => .error (.io operation path obstacle)

/-- The names of the files directly inside a directory, in order. -/
def fileNames (disk : Disk) (directory : String) : Except Error (List String) :=
  match disk.look directory with
  | .directory files => .ok (files.mergeSort fun a b => decide (a ≤ b))
  | _ => .error (.directoryNotFound directory)

end Disk

end LoadOrder.Storage
