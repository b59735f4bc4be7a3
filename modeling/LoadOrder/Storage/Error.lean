import LoadOrder.Document.Format

/-!
# Storage errors

Why a file could not be used.
-/

namespace LoadOrder.Storage

/-- Why the system could not read a file. -/
inductive Obstacle where
  | notFound
  | notADirectory
  | isADirectory
  | nameTooLong
  | nulInPath
  /-- The bytes of the file are not UTF-8 text. -/
  | notText
  /-- Anything else, in the system's words. -/
  | other (text : String)
deriving Repr, DecidableEq

/-- The system's words for the obstacle. -/
def Obstacle.message : Obstacle → String
  | notFound => "No such file or directory (os error 2)"
  | notADirectory => "Not a directory (os error 20)"
  | isADirectory => "Is a directory (os error 21)"
  | nameTooLong => "File name too long (os error 36)"
  | nulInPath => "file name contained an unexpected NUL byte"
  | notText => "stream did not contain valid UTF-8"
  | other text => text

/-- Why a file could not be used. -/
inductive Error where
  | io (operation path : String) (obstacle : Obstacle)
  | fileNotFound (path : String)
  | directoryNotFound (path : String)
  /-- The value has no form in the format. -/
  | unwritable (format : Document.Format)
  /-- The text is not a document of the format, or not of the kind expected. -/
  | unreadable (format : Document.Format)
  | unsupportedFormat (path : String)
deriving Repr, DecidableEq

def Error.message : Error → String
  | io operation path obstacle =>
    s!"I/O error during operation '{operation}' on path '{path}': {obstacle.message}"
  | fileNotFound path => s!"File not found at path: {path}"
  | directoryNotFound path => s!"Directory not found at path: {path}"
  | unwritable format => s!"Serialization to '{format.word}' failed"
  | unreadable format => s!"Deserialization from '{format.word}' failed"
  | unsupportedFormat path => s!"Unsupported file format: {path}"

end LoadOrder.Storage
