import InfluxKeeper.Json.Reader
import InfluxKeeper.Manifest.Documents
import InfluxKeeper.Text.Lines
import InfluxKeeper.Yaml.Load
import InfluxKeeper.Yaml.Writer

/-!
# Manifest files

A manifest file is read as JSON if its name ends in `.json`, which may hold one document or a list of
them, and else as YAML. All documents are read before the first is made a record.

A fault is reported if it is one of the manifest: a file that cannot be read, is not well-formed, or whose
documents are no records. A path that cannot name a file, a file that is no text, a scalar that no value
has, and an invalid document whose kind has no text, break reading off. Records are written as YAML.
-/

namespace InfluxKeeper.Manifest

open Text

/-- Why nothing can be read at a path. -/
inductive PathFault
  | absent
  | directory
  | longName
  deriving DecidableEq, Repr

/-- The wording of what is wrong with a path. -/
def PathFault.message : PathFault → String
  | absent => "[Errno 2] No such file or directory"
  | directory => "[Errno 21] Is a directory"
  | longName => "[Errno 36] File name too long"

/-- What a path leads to. One with a null character in it leads nowhere. -/
inductive FileState
  | octets (content : List UInt8)
  | unreadable (fault : PathFault)
  | noPath
  deriving DecidableEq, Repr

/-- Why a file gives no records. -/
inductive FileFault
  | unreadable (path : String) (fault : PathFault)
  | noPath
  | notText (error : Utf8.Error)
  | badJson (path : String) (error : Json.Error)
  | badYaml (path : String)
  | badScalar (fault : Yaml.ScalarFault)
  | badDocument (fault : DocumentFault)
  deriving DecidableEq

namespace FileFault

/-- The fault of a JSON text. -/
def ofJson (path : String) : Json.Error → FileFault
  | .tooLong digits => badScalar (.longInteger digits)
  | error => badJson path error

/-- The fault of a YAML text. -/
def ofYaml (path : String) : Yaml.Fault → FileFault
  | .malformed | .ended => badYaml path
  | .notText error => notText error
  | .scalar fault => badScalar fault

/-- Whether a fault is reported as one of the manifest. -/
def reported : FileFault → Bool
  | noPath => false
  | notText _ => false
  | badScalar _ => false
  | badDocument fault => fault.reported
  | _ => true

/-- The wording of a fault; what is wrong with a YAML text is not told. -/
def message : FileFault → String
  | unreadable path fault => "Cannot read " ++ path ++ ": " ++ fault.message ++ ": " ++ quoted path
  | noPath => "embedded null byte"
  | notText error => error.message
  | badJson path error => "Cannot parse " ++ path ++ ": " ++ error.message
  | badYaml path => "Cannot parse " ++ path ++ ": "
  | badScalar fault => fault.message
  | badDocument fault => fault.message

end FileFault

/-- Whether a file of a name holds JSON. -/
def holdsJson (path : String) : Bool := ".json".toList.isSuffixOf path.toList

/-- The documents of a JSON text: the items of a list, or the one value. -/
def jsonDocuments (s : String) : Except Json.Error (List Value) :=
  (Json.read s).map fun
    | .list items => items
    | v => [v]

/-- The documents of a file. JSON is decoded as a whole, YAML piece by piece. -/
def documents (path : String) (octets : List UInt8) : Except FileFault (List Value) :=
  if holdsJson path then do
    let s ← (Utf8.decode octets).mapError .notText
    (jsonDocuments (String.ofList (unifyLineEnds s))).mapError (.ofJson path)
  else (Yaml.load (.ofOctets octets)).mapError (.ofYaml path)

/-- The records of what a path leads to. -/
def ofFile (now : Timestamp) (path : String) : FileState → Except FileFault (List Record)
  | .unreadable fault => .error (.unreadable path fault)
  | .noPath => .error .noPath
  | .octets content => do
    let found ← documents path content
    (records now found).mapError .badDocument

/-- Records as a manifest in YAML. -/
def dump (rs : List Record) : String := Yaml.write (rs.map Record.toEntries)

end InfluxKeeper.Manifest
