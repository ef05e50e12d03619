import Mockup.Command.Path

/-!
# File trees

The files and directories that programs are run on. Files are found by walking a path name by name,
from the working directory or from the root; each name but the last has to lead to a directory. What
changes a tree in several steps may fail between two of them, and then what is done stays done.
-/

namespace Mockup

/-- A file or directory by the names that lead to it from the root. -/
abbrev Location := List Text

/-- Why a path does not lead to the wanted file. -/
inductive FileError where
  | notFound
  | isDirectory
  | notDirectory
  /-- A file stands where a directory is to be made. -/
  | alreadyExists
  /-- The path or one of its names has too many bytes. -/
  | nameTooLong
  deriving DecidableEq, Repr

/-- Files, and the directories that have to exist apart from those that hold files. -/
structure FileTree where
  files : List (Location × ByteArray)
  directories : List Location

/-- Where the walk of a path starts, given the working directory. -/
def Path.start (here : Location) (path : Path) : Location :=
  if path.root = [] then here else []

namespace FileTree

/-- The bytes of the file at a location. -/
def get? (tree : FileTree) (location : Location) : Option ByteArray :=
  tree.files.lookup location

/-- Whether a location is a directory. -/
def isDirectory (tree : FileTree) (location : Location) : Bool :=
  location.isEmpty || tree.directories.any (location.isPrefixOf ·) ||
    tree.files.any fun (file, _) => location.isPrefixOf file && location ≠ file

/-- What a name leads to in a directory. The root is the directory above itself. -/
def lookUp (tree : FileTree) (location : Location) (name : Text) : Except FileError Location :=
  if name = Path.up then .ok location.dropLast
  else if Path.isLongName name then .error .nameTooLong
  else if tree.isDirectory (location ++ [name]) || (tree.get? (location ++ [name])).isSome then
    .ok (location ++ [name])
  else .error .notFound

/-- The directory that a name leads to in another. -/
def enter (tree : FileTree) (location : Location) (name : Text) : Except FileError Location :=
  match tree.lookUp location name with
  | .error cause => .error cause
  | .ok next => if tree.isDirectory next then .ok next else .error .notDirectory

/-- The directory that names lead to from another. -/
def walk (tree : FileTree) : Location → List Text → Except FileError Location
  | location, [] => .ok location
  | location, name :: names =>
    match tree.enter location name with
    | .error cause => .error cause
    | .ok next => walk tree next names

/-- Where a path leads to. -/
def resolve (tree : FileTree) (here : Location) (path : Path) : Except FileError Location :=
  if path.isLong then .error .nameTooLong
  else
    match path.parts.reverse with
    | [] => .ok (path.start here)
    | last :: front =>
      match tree.walk (path.start here) front.reverse with
      | .error cause => .error cause
      | .ok location => tree.lookUp location last

/-- The bytes of the file that a path leads to. -/
def read (tree : FileTree) (here : Location) (path : Path) : Except FileError ByteArray :=
  match tree.resolve here path with
  | .error cause => .error cause
  | .ok location =>
    match tree.get? location with
    | some bytes => .ok bytes
    | none => .error .isDirectory

/-- Makes the directory `last` in the directory that `front` leads to, unless it exists. -/
def makeDirectory (tree : FileTree) (start : Location) (front : List Text) (last : Text) :
    Except FileError FileTree :=
  match tree.walk start front with
  | .error cause => .error cause
  | .ok location =>
    let next := location ++ [last]
    if Path.isLongName last then .error .nameTooLong
    else if last = Path.up ∨ tree.isDirectory next then .ok tree
    else if (tree.get? next).isSome then .error .alreadyExists
    else .ok { tree with directories := next :: tree.directories }

/-- The tree after a change that is made as a whole or not at all, and why it is not made. -/
def after (tree : FileTree) : Except FileError FileTree → FileTree × Option FileError
  | .error cause => (tree, some cause)
  | .ok changed => (changed, none)

/-- Makes the directory that names lead to, and before it those on the way; the last name comes
first. -/
def makeDirectories (tree : FileTree) (start : Location) :
    (reversed : List Text) → FileTree × Option FileError
  | [] => (tree, none)
  | last :: front =>
    match tree.makeDirectory start front.reverse last with
    | .error .notFound =>
      match tree.makeDirectories start front with
      | (changed, none) => changed.after (changed.makeDirectory start front.reverse last)
      | stopped => stopped
    | result => tree.after result

/-- The files after one is written: a new file comes last, an old one keeps its place. -/
def insert (location : Location) (bytes : ByteArray) :
    List (Location × ByteArray) → List (Location × ByteArray)
  | [] => [(location, bytes)]
  | (other, old) :: files =>
    if other = location then (location, bytes) :: files
    else (other, old) :: insert location bytes files

/-- Writes the file `last` in the directory that `front` leads to. -/
def store (tree : FileTree) (start : Location) (front : List Text) (last : Text)
    (bytes : ByteArray) : Except FileError FileTree :=
  match tree.walk start front with
  | .error cause => .error cause
  | .ok location =>
    let next := location ++ [last]
    if Path.isLongName last then .error .nameTooLong
    else if last = Path.up ∨ tree.isDirectory next then .error .isDirectory
    else .ok { tree with files := insert next bytes tree.files }

/-- Writes the file that a path leads to, and makes the directories on the way to it. -/
def write (tree : FileTree) (here : Location) (path : Path) (bytes : ByteArray) :
    FileTree × Option FileError :=
  match path.parts.reverse with
  | [] => (tree, some .isDirectory)
  | last :: front =>
    if path.front.isLong then (tree, some .nameTooLong)
    else
      match tree.makeDirectories (path.start here) front with
      | (made, none) =>
        made.after <|
          if path.isLong then .error .nameTooLong
          else made.store (path.start here) front.reverse last bytes
      | stopped => stopped

/-- The files of a directory with nothing around it. -/
def under (here : Location) (tree : FileTree) : FileTree where
  files := tree.files.map fun (file, bytes) => (here ++ file, bytes)
  directories := here :: tree.directories.map (here ++ ·)

/-- What is in a directory, by the names that lead to it from there. -/
def below (here : Location) (tree : FileTree) : FileTree where
  files := tree.files.filterMap fun (file, bytes) =>
    if here.isPrefixOf file then some (file.drop here.length, bytes) else none
  directories := tree.directories.filterMap fun directory =>
    if here.isPrefixOf directory then some (directory.drop here.length) else none

end FileTree

end Mockup
