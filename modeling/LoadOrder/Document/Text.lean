import LoadOrder.Document.Encode
import LoadOrder.Document.Json.Read
import LoadOrder.Document.Json.Source
import LoadOrder.Document.Json.Write
import LoadOrder.Document.Toml.Read
import LoadOrder.Document.Toml.Source
import LoadOrder.Document.Toml.Write
import LoadOrder.Document.Yaml.Source
import LoadOrder.Document.Yaml.Write
import LoadOrder.Storage.Error

/-!
# Documents as texts

Reading and writing a list or settings in any of the formats. What can go wrong in reading is only
that the text is not a document of the kind expected; writing always succeeds.
-/

namespace LoadOrder.Document

def write (format : Format) (value : Value) : String :=
  match format with
  | .json => Json.write value
  | .yaml => Yaml.write value
  | .toml => Toml.write value

/-- What a document holds, for the three kinds of trees that documents are read as. -/
def read {α : Type} (format : Format) (decode : {ν : Type} → [Source ν] → ν → Option α)
    (text : String) : Except Storage.Error α :=
  let result :=
    match format with
    | .json => (Json.read text).bind decode
    | .yaml => (Yaml.read text).bind decode
    | .toml => (Toml.read text).bind decode
  match result with
  | some value => .ok value
  | none => .error (.unreadable format)

/-- The metadata list that a text holds. -/
def readPlugins (format : Format) (text : String) : Except Storage.Error (List Plugin) :=
  read format Decode.plugins text

def readScanRecords (format : Format) (text : String) : Except Storage.Error (List ScanRecord) :=
  read format Decode.scanRecords text

def readSettings (format : Format) (text : String) : Except Storage.Error Settings :=
  read format Decode.settings text

/-- The text of a metadata list. -/
def writePlugins (format : Format) (plugins : List Plugin) : String :=
  write format (Encode.plugins plugins)

def writeScanRecords (format : Format) (records : List ScanRecord) : String :=
  write format (Encode.scanRecords records)

def writeSettings (format : Format) (settings : Settings) : String :=
  write format (Encode.settings settings)

end LoadOrder.Document
