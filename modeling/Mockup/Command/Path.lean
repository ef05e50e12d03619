import Mockup.Text.Split

/-!
# Paths

A path is a list of names, with a mark in front if it starts at the root of the file system.
Repeated slashes and single dots do not matter; double dots are kept, since what they lead to
depends on the files that exist.
-/

namespace Mockup

/-- A path to a file or directory. -/
structure Path where
  /-- The slashes in front of an absolute path; two of them are kept apart from one. -/
  root : Text
  parts : List Text
  deriving DecidableEq, Repr

namespace Path

/-- The name that leads to the directory above. -/
def up : Text := "..".toList

/-- The path that a text stands for. -/
def ofText (text : Text) : Path :=
  let slashes := (text.takeWhile (· = '/')).length
  let root := if slashes = 0 then [] else if slashes = 2 then "//".toList else "/".toList
  ⟨root, (Text.splitOn '/' text).filter fun part => part ≠ [] ∧ part ≠ ['.']⟩

/-- The text of a path. -/
def text (path : Path) : Text :=
  if path.root = [] ∧ path.parts = [] then ['.']
  else path.root ++ Text.joined ['/'] path.parts

/-- The last name of a path. -/
def name (path : Path) : Text :=
  path.parts.getLast?.getD []

/-- The number of bytes that a text takes in a file system. -/
def byteCount : Text → Nat
  | [] => 0
  | character :: rest => character.utf8Size + byteCount rest

/-- Whether a name has more bytes than a file system allows. -/
def isLongName (name : Text) : Bool :=
  255 < byteCount name

/-- Whether a path has more bytes than a file system allows. -/
def isLong (path : Path) : Bool :=
  4095 < byteCount path.text

/-- The path of the directory in which the last name of a path is looked up. -/
def front (path : Path) : Path :=
  { path with parts := path.parts.dropLast }

end Path

end Mockup
