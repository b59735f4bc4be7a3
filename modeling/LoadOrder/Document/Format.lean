import LoadOrder.Storage.Path

/-!
# Document formats

Lists and settings are written in one of three formats; the extension of a file's name says which.
-/

namespace LoadOrder.Document

/-- A way to write documents. -/
inductive Format where
  | json
  | yaml
  | toml
deriving Repr, DecidableEq

/-- The word for the format, which is also the usual extension. -/
def Format.word : Format → String
  | json => "json"
  | yaml => "yaml"
  | toml => "toml"

/-- The format that an extension stands for; its letter case does not count. -/
def Format.ofExtension? (extension : String) : Option Format :=
  match Name.key extension with
  | "json" => some json
  | "yaml" | "yml" => some yaml
  | "toml" => some toml
  | _ => none

def Format.ofPath? (path : String) : Option Format :=
  (Storage.extension? path).bind ofExtension?

end LoadOrder.Document
