import Steward.Text.Utf8
/-!
# A tree of files

Files and directories stand under locations, which are lists of names.  A path is followed name by
name from the working directory, whose own location is the empty list; nothing is known of what is
outside.  Every name but the last must lead to a directory.
-/

set_option autoImplicit false

namespace Steward

/-- A mode says in three octal digits who may read and write the file; times count in nanoseconds
from 1970 on and may lie before. -/
structure File where
  octets : Utf8.Octets
  mode : Nat
  modified : Int
  deriving DecidableEq, Inhabited

inductive Node where
  | file (file : File)
  | directory
  deriving DecidableEq

inductive FileError where
  | notFound
  | notDirectory
  | isDirectory
  | nameTooLong
  | nulInPath
  | notText
  | exists
  deriving DecidableEq, Repr

namespace FileError

def message : FileError → String
  | .notFound => "No such file or directory (os error 2)"
  | .notDirectory => "Not a directory (os error 20)"
  | .isDirectory => "Is a directory (os error 21)"
  | .nameTooLong => "File name too long (os error 36)"
  | .nulInPath => "file name contained an unexpected NUL byte"
  | .notText => "stream did not contain valid UTF-8"
  | .exists => "File exists (os error 17)"

def kind : FileError → String
  | .notFound => "NotFound"
  | .notDirectory => "NotADirectory"
  | .isDirectory => "IsADirectory"
  | .nameTooLong => "InvalidFilename"
  | .nulInPath => "InvalidInput"
  | .notText => "InvalidData"
  | .exists => "AlreadyExists"

end FileError

abbrev Location := List String

structure Files where
  nodes : List (Location × Node)

namespace Files

def empty : Files := ⟨[]⟩

def outside : Location := ["/"]

def node? (files : Files) (location : Location) : Option Node :=
  if location = [] ∨ location = outside then some .directory else files.nodes.lookup location

def put (files : Files) (location : Location) (node : Node) : Files :=
  ⟨(location, node) :: files.nodes.filter (·.1 != location)⟩

def erase (files : Files) (location : Location) : Files :=
  ⟨files.nodes.filter (·.1 != location)⟩

/-! ## Following paths -/

def pieces : List Char → List (List Char)
  | [] => [[]]
  | c :: rest =>
    match pieces rest with
    | [] => [[c]]
    | piece :: more => if c = '/' then [] :: piece :: more else (c :: piece) :: more

def namesOf (path : String) : List String := (pieces path.toList).map String.ofList

def above (location : Location) : Location :=
  if location = [] then outside else location.dropLast

def follow (files : Files) (place : Location) : List String → Except FileError Location
  | [] => .ok place
  | name :: rest =>
    match files.node? place with
    | none => .error .notFound
    | some (.file _) => .error .notDirectory
    | some .directory =>
      if name = "" ∨ name = "." then follow files place rest
      else if name = ".." then follow files (above place) rest
      else if 255 < name.utf8ByteSize then .error .nameTooLong
      else follow files (place ++ [name]) rest

def locate (files : Files) (path : String) : Except FileError Location :=
  if path.isEmpty then .error .notFound
  else if path.toList.contains '\u0000' then .error .nulInPath
  else
    match path.toList with
    | '/' :: _ => files.follow outside (namesOf path)
    | _ => files.follow [] (namesOf path)

def find (files : Files) (path : String) : Except FileError Node := do
  match files.node? (← files.locate path) with
  | none => throw .notFound
  | some node => return node

def holds (files : Files) (path : String) : Bool := (files.find path).isOk

def read (files : Files) (path : String) : Except FileError Utf8.Octets := do
  match ← files.find path with
  | .file file => return file.octets
  | .directory => throw .isDirectory

def readText (files : Files) (path : String) : Except FileError String := do
  match Utf8.decode? (← files.read path) with
  | none => throw .notText
  | some text => return text

/-- Replaces the contents of a file.  A new file can be read by everyone. -/
def write (files : Files) (path : String) (octets : Utf8.Octets) (modified : Int) :
    Except FileError Files := do
  let location ← files.locate path
  match files.node? location with
  | some .directory => throw .isDirectory
  | some (.file old) => return files.put location (.file ⟨octets, old.mode, modified⟩)
  | none => return files.put location (.file ⟨octets, 0o644, modified⟩)

def setMode (files : Files) (path : String) (mode : Nat) : Except FileError Files := do
  let location ← files.locate path
  match files.node? location with
  | none => throw .notFound
  | some .directory => return files
  | some (.file old) => return files.put location (.file { old with mode := mode })

def rename (files : Files) (source target : String) : Except FileError Files := do
  let old ← files.locate source
  match files.node? old with
  | none => throw .notFound
  | some .directory => throw .isDirectory
  | some (.file file) =>
    match files.locate target with
    -- A target that ends in a slash asks for a directory.
    | .error .notFound =>
      throw (if target.toList.getLast? = some '/' then .notDirectory else .notFound)
    | .error error => throw error
    | .ok new =>
      match files.node? new with
      | some .directory => throw .isDirectory
      | _ => return (files.erase old).put new (.file file)

def remove (files : Files) (path : String) : Except FileError Files := do
  let location ← files.locate path
  match files.node? location with
  | none => throw .notFound
  | some .directory => throw .isDirectory
  | some (.file _) => return files.erase location

def makeDirectory (files : Files) (path : String) : Except FileError Files := do
  -- A slash after the last name changes nothing here.
  let path := String.ofList (path.toList.reverse.dropWhile (· == '/')).reverse
  let location ← files.locate path
  match files.node? location with
  | none => return files.put location .directory
  | some _ => throw .exists

def removeDirectory (files : Files) (path : String) : Except FileError Files := do
  let location ← files.locate path
  match files.node? location with
  | none => throw .notFound
  | some (.file _) => throw .notDirectory
  | some .directory =>
    if files.nodes.any fun (other, _) => other != location && location.isPrefixOf other then
      throw .exists
    else return files.erase location

/-- The paths of what `path` leads through, and `path` itself at the end. -/
def stages (path : String) : List String :=
  let names := namesOf path
  (List.range names.length).map fun count => String.intercalate "/" (names.take (count + 1))

/-- Puts a node where the names lead to from `place`, and directories wherever nothing is on the
way there. -/
def plantFrom (files : Files) (place : Location) (node : Node) : List String → Files
  | [] => files
  | name :: rest =>
    if name = "" ∨ name = "." then files.plantFrom place node rest
    else if name = ".." then files.plantFrom (above place) node rest
    else
      let next := place ++ [name]
      if rest.isEmpty then files.put next node
      else
        let files := if (files.node? next).isSome then files else files.put next .directory
        files.plantFrom next node rest

def plant (files : Files) (path : String) (node : Node) : Files :=
  files.plantFrom (if path.toList.head? = some '/' then outside else []) node (namesOf path)

def names (files : Files) : List String :=
  files.nodes.filterMap fun (location, _) =>
    match location with
    | [name] => some name
    | _ => none

def beside? (path name : String) : Option String :=
  let names := namesOf path
  let absolute := path.toList.head? == some '/'
  -- Empty pieces and dots count for nothing, a dot at the very front apart.
  let effective := match names with
    | "." :: rest => "." :: rest.filter fun name => name != "" && name != "."
    | names => names.filter fun name => name != "" && name != "."
  if effective.isEmpty then none
  else
    let parent := effective.dropLast
    some ((if absolute then "/" else "") ++ String.intercalate "/" (parent ++ [name]))

end Files

end Steward
