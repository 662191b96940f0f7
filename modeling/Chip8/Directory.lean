/-! # Directories

The directory that program files are read from. It holds files only, so of a path's directories
it knows the directory itself and the one above, of which nothing is known.
-/

namespace Chip8

structure Directory where
  files : List (String × List UInt8) := []
deriving DecidableEq, Repr

namespace Directory

inductive Fault where
  /-- A path with a NUL character. -/
  | badPath
  /-- A path, or a name in one, of too many bytes. -/
  | tooLong
  | notFound
  | isDirectory
  /-- A path that goes through a file. -/
  | notDirectory
deriving DecidableEq, Repr

/-- Where a path leads. -/
inductive Place where
  | here
  | above
  | file (bytes : List UInt8)
deriving DecidableEq, Repr

/-- The parts of a path between slashes. -/
def parts : List Char → List (List Char)
  | [] => [[]]
  | c :: rest =>
      if c = '/' then [] :: parts rest
      else match parts rest with
        | [] => [[c]]
        | part :: others => (c :: part) :: others

/-- The most bytes that a path has. -/
def longestPath : Nat := 4095

/-- The most bytes that a name in a directory has. -/
def longestName : Nat := 255

/-- The file of a name. -/
def find (directory : Directory) (name : String) : Except Fault Place :=
  if longestName < name.utf8ByteSize then .error .tooLong
  else match directory.files.find? fun file => file.1 == name with
    | some file => .ok (.file file.2)
    | none => .error .notFound

/-- Where one part of a path leads from a place. -/
def enter (directory : Directory) (place : Place) (part : List Char) : Except Fault Place :=
  match place with
  | .file _ => .error .notDirectory
  | .here =>
      if part = [] ∨ part = ['.'] then .ok .here
      else if part = ['.', '.'] then .ok .above
      else directory.find (String.ofList part)
  | .above =>
      if part = [] ∨ part = ['.'] ∨ part = ['.', '.'] then .ok .above
      else find {} (String.ofList part)

/-- The bytes of the file that a path names. -/
def read (directory : Directory) (path : String) : Except Fault (List UInt8) :=
  let characters := path.toList
  if characters.contains (Char.ofNat 0) then .error .badPath
  else if characters = [] then .error .notFound
  else if longestPath < path.utf8ByteSize then .error .tooLong
  else
    let start : Place := if characters.head? = some '/' then .above else .here
    match (parts characters).foldlM directory.enter start with
    | .error fault => .error fault
    | .ok (.file bytes) => .ok bytes
    | .ok .here => .error .isDirectory
    | .ok .above => .error .isDirectory

end Directory

end Chip8
