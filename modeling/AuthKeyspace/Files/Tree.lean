import AuthKeyspace.Files.Path
import AuthKeyspace.Text.Quoted

/-!
# Files that can be read

Reading a file gives its bytes or a fault, of which the system has a number and a text. A `Tree`
holds files and folders as a value; a path is followed in it name by name from the working folder,
two dots leading back. Outside of the working folder nothing is known to be, except folders to go
through.
-/

namespace AuthKeyspace.Files

/-- Why a file cannot be read. -/
inductive ReadFault
  | missing
  | notAFolder
  | isAFolder
  | nameTooLong
  | other (code : Nat) (reason : String)
deriving DecidableEq, Repr

namespace ReadFault

/-- The number that the system has for a fault. -/
def number : ReadFault → Nat
  | .missing => 2
  | .notAFolder => 20
  | .isAFolder => 21
  | .nameTooLong => 36
  | .other code _ => code

/-- What the system says of a fault. -/
def text : ReadFault → String
  | .missing => "No such file or directory"
  | .notAFolder => "Not a directory"
  | .isAFolder => "Is a directory"
  | .nameTooLong => "File name too long"
  | .other _ reason => reason

/-- What is said of a path that cannot be read. -/
def message (fault : ReadFault) (path : Path) : String :=
  "[Errno " ++ toString fault.number ++ "] " ++ fault.text ++ ": " ++ Text.quoted path.text

end ReadFault

/-- The most bytes a name can have. -/
def maxNameBytes : Nat := 255

/-- A path has fewer bytes than this. -/
def pathBytesLimit : Nat := 4096

/-- The files and the folders below a working folder, each by the names that lead to it. -/
structure Tree where
  files : List (List String × List UInt8) := []
  folders : List (List String) := []
deriving Repr

/-- What is found at a place. -/
inductive Entry
  | file (bytes : List UInt8)
  | folder
deriving Repr

/-- A place on the way along a path. -/
inductive Place
  | inside (names : List String)
  | outside
deriving DecidableEq, Repr

namespace Tree

/-- Is the list of names the beginning of the way to something? -/
def leadsSomewhere (t : Tree) (names : List String) : Bool :=
  names.isEmpty || (t.files.map (·.1) ++ t.folders).any fun way => names.isPrefixOf way

/-- What is found behind a list of names. -/
def entry? (t : Tree) (names : List String) : Option Entry :=
  match t.files.lookup names with
  | some bytes => some (.file bytes)
  | none => if t.leadsSomewhere names then some .folder else none

/-- Follow names from a folder. -/
def follow (t : Tree) : Place → List String → Except ReadFault (List UInt8)
  | _, [] => .error .isAFolder
  | .outside, ".." :: rest => t.follow .outside rest
  | .inside [], ".." :: rest => t.follow .outside rest
  | .inside names, ".." :: rest => t.follow (.inside names.dropLast) rest
  | .outside, name :: _ =>
    if maxNameBytes < name.utf8ByteSize then .error .nameTooLong else .error .missing
  | .inside names, name :: rest =>
    if maxNameBytes < name.utf8ByteSize then .error .nameTooLong
    else
      match t.entry? (names ++ [name]) with
      | none => .error .missing
      | some .folder => t.follow (.inside (names ++ [name])) rest
      | some (.file bytes) => if rest.isEmpty then .ok bytes else .error .notAFolder

/-- Read the file at a path. -/
def read (t : Tree) (path : Path) : Except ReadFault (List UInt8) :=
  if pathBytesLimit ≤ path.text.utf8ByteSize then .error .nameTooLong
  else t.follow (if path.root = .relative then .inside [] else .outside) path.names

end Tree

end AuthKeyspace.Files
