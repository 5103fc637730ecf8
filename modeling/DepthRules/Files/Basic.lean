import DepthRules.Files.Path
import DepthRules.Text.Quoted
import DepthRules.Text.Split
import DepthRules.Text.Utf8

/-!
# Files

A tree of directories and files as a value. A path is followed part by part, from the top of the
tree if it starts with a slash and else from the working directory, so that a part that means the
same place (`.`) or the one above (`..`) still has to follow a directory. Above the top there is
only the top itself. A path with a null character is no path at all, and names and paths have a
greatest length in bytes.
-/

namespace DepthRules

open Text

/-- Why a path cannot be read or written. -/
inductive AccessError where
  | missing (path : String)
  | isDirectory (path : String)
  | notDirectory (path : String)
  | tooLong (path : String)
  | nullCharacter
  deriving DecidableEq, Repr

/-- The wording of an error. -/
def AccessError.message : AccessError → String
  | .missing path => "[Errno 2] No such file or directory: " ++ quote path
  | .isDirectory path => "[Errno 21] Is a directory: " ++ quote path
  | .notDirectory path => "[Errno 20] Not a directory: " ++ quote path
  | .tooLong path => "[Errno 36] File name too long: " ++ quote path
  | .nullCharacter => "embedded null byte"

/-- A place in the tree: the names on the way to it, the last one first. -/
abbrev Location := List (List Char)

/-- The directories and files of a tree, and the directory from which paths are followed. -/
structure Files where
  workingDirectory : Location
  directories : List Location
  contents : List (Location × List UInt8)

namespace Files

/-- A working directory without a name: it is below the top, and no path from there leads to it. -/
def nameless : Location := [[]]

/-- A tree with nothing in it but the working directory. -/
def emptyAt (workingDirectory : Location) : Files := ⟨workingDirectory, [workingDirectory], []⟩

/-- A tree with nothing in it. -/
def empty : Files := emptyAt nameless

/-- What is found at the end of a path. -/
inductive Target where
  | directory
  | file (location : Location) (bytes : List UInt8)
  | absent (location : Location)
  | nowhere
  | underFile
  | tooLong
  | noPath

/-- The bytes of the file at a location. -/
def content? (files : Files) (location : Location) : Option (List UInt8) :=
  (files.contents.find? fun f => f.1 = location).map Prod.snd

/-- Whether a location is that of a directory. -/
def isDirectory (files : Files) (location : Location) : Bool :=
  location.isEmpty || files.directories.contains location

/-- The greatest number of bytes of a name. -/
def nameBytes : Nat := 255

/-- The greatest number of bytes of a path. -/
def pathBytes : Nat := 4095

/-- Whether a text has more than `limit` bytes. -/
def exceeds (limit : Nat) (cs : List Char) : Bool := limit < (String.ofList cs).utf8ByteSize

/-- What is found by following the parts of a path from a directory. -/
def follow (files : Files) (location : Location) : List (List Char) → Target
  | [] => .directory
  | part :: rest =>
      if part.isEmpty || part == ['.'] then files.follow location rest
      else if part == ['.', '.'] then files.follow location.tail rest
      else if exceeds nameBytes part then .tooLong
      else
        let next := part :: location
        match files.content? next with
        | some bytes => if rest.isEmpty then .file next bytes else .underFile
        | none =>
            if files.isDirectory next then files.follow next rest
            else if rest.isEmpty then .absent next else .nowhere

/-- What is found at a path. -/
def find (files : Files) (path : String) : Target :=
  if path.contains '\x00' then .noPath
  else if exceeds pathBytes path.toList then .tooLong
  else
    match path.toList with
    | [] => .nowhere
    | '/' :: rest => files.follow [] (splitAll '/' rest)
    | cs => files.follow files.workingDirectory (splitAll '/' cs)

/-- The bytes of the file at a path. -/
def read (files : Files) (path : String) : Except AccessError (List UInt8) :=
  match files.find path with
  | .file _ bytes => .ok bytes
  | .directory => .error (.isDirectory path)
  | .underFile => .error (.notDirectory path)
  | .absent _ => .error (.missing path)
  | .nowhere => .error (.missing path)
  | .tooLong => .error (.tooLong path)
  | .noPath => .error .nullCharacter

/-- Adds the directories on the way to a location. -/
def addDirectories (files : Files) : Location → Files
  | [] => files
  | name :: above =>
      let files := files.addDirectories above
      if files.isDirectory (name :: above) then files
      else { files with directories := (name :: above) :: files.directories }

/-- Sets the bytes of the file at a location. -/
def put (files : Files) (location : Location) (bytes : List UInt8) : Files :=
  { files with contents := (location, bytes) :: files.contents.filter fun f => f.1 ≠ location }

/-- Writes a file at a path; the directory it is in must be there. -/
def write (files : Files) (path : String) (bytes : List UInt8) : Except AccessError Files :=
  match files.find path with
  | .file location _ => .ok (files.put location bytes)
  | .absent location => .ok (files.put location bytes)
  | .directory => .error (.isDirectory path)
  | .underFile => .error (.notDirectory path)
  | .nowhere => .error (.missing path)
  | .tooLong => .error (.tooLong path)
  | .noPath => .error .nullCharacter

/-- The location a path stands for if all its parts but the last are directories. -/
def locate (files : Files) (path : String) : Location :=
  let start := if path.toList.head? = some '/' then [] else files.workingDirectory
  (Path.parts path.toList).foldl
    (fun location part => if part == ['.', '.'] then location.tail else part :: location) start

/-- Adds a file, or a directory for a name that ends in a slash, with all directories on the way. -/
def add (files : Files) (name : String) (bytes : List UInt8) : Files :=
  match files.locate name with
  | [] => files
  | last :: above =>
      if name.toList.getLast? = some '/' then files.addDirectories (last :: above)
      else (files.addDirectories above).put (last :: above) bytes

end Files

end DepthRules
