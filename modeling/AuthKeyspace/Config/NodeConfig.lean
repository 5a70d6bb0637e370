import AuthKeyspace.Files.Tree
import AuthKeyspace.Text.Portions
import AuthKeyspace.Yaml.Fault
import AuthKeyspace.Yaml.Value

/-!
# The config file of a node

A node config is a file with one document, which is a mapping; an empty document is an empty
mapping. A file that cannot be read, a malformed document and a document of another kind are faults
that a node lives with. A path that cannot be one, bytes that are no characters and a document with
a part that cannot be what it claims to be are not.

Neither the files nor the reader of documents belong to a node config: both are its `Source`. A
source is taken as it is, and of its reader nothing is asked but that it gives a document or a
fault.
-/

namespace AuthKeyspace.Config

open AuthKeyspace.Files

/-- Why a node config is of no use; a node goes on without it. -/
inductive Defect
  | unreadable (path : Path) (fault : ReadFault)
  | malformed (path : Path)
  | notAMapping (path : Path) (kind : String)
deriving DecidableEq, Repr

/-- What is said of a node config of no use. -/
def Defect.message : Defect → String
  | .unreadable path fault => "Cannot read node config " ++ path.text ++ ": " ++ fault.message path
  | .malformed path => "Invalid YAML in node config " ++ path.text
  | .notAMapping path kind =>
    "Node config " ++ path.text ++ " must be a mapping, got " ++ kind ++ "."

/-- Why a node config stops a node. -/
inductive Breakdown
  | nulInPath
  | content (fault : Yaml.Fault)
deriving DecidableEq, Repr

/-- What is said of a node config that stops a node. -/
def Breakdown.message : Breakdown → String
  | .nulInPath => "embedded null byte"
  | .content fault => fault.message

/-- Why a node config was not read. -/
inductive ReadError
  | defect (defect : Defect)
  | breakdown (breakdown : Breakdown)
deriving DecidableEq, Repr

/-- What reading a file at a path gives. -/
abbrev FileReader := Path → Except ReadFault (List UInt8)

/-- What reading the document of a file gives, the file being read in portions. -/
abbrev DocumentReader := Text.Portions → Except Yaml.Fault Yaml.Document

/-- Where a node config comes from. -/
structure Source where
  files : FileReader
  document : DocumentReader

namespace NodeConfig

/-- The mapping in the bytes of a file. -/
def ofBytes (document : DocumentReader) (path : Path) (bytes : List UInt8) :
    Except ReadError Yaml.Entries :=
  match document (Text.portionsOf bytes) with
  | .ok .nothing => .ok []
  | .ok (.mapping entries) => .ok entries
  | .ok (.other kind) => .error (.defect (.notAMapping path kind))
  | .error .malformed => .error (.defect (.malformed path))
  | .error fault => .error (.breakdown (.content fault))

/-- Read the node config at a path. -/
def read (source : Source) (pathText : String) : Except ReadError Yaml.Entries :=
  let path := Path.ofText pathText
  if path.text.toList.contains '\x00' then .error (.breakdown .nulInPath)
  else
    match source.files path with
    | .error fault => .error (.defect (.unreadable path fault))
    | .ok bytes => ofBytes source.document path bytes

end NodeConfig

end AuthKeyspace.Config
