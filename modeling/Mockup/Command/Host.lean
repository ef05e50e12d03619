import Mockup.Command.Arguments
import Mockup.Command.FileTree
import Mockup.Document.Library

/-!
# What programs run on

A program relies on things that are not part of it: the library that reads its arguments, the
library for data models, the console and the disk. A host is a choice of all of them.
-/

namespace Mockup

/-- What a program runs on. -/
structure Host where
  /-- What the library for command lines takes arguments to ask for. -/
  request : List Text → Request
  /-- What that library does to files when it sets up shell completion. -/
  install : FileTree → FileTree
  models : ModelLibrary
  /-- Whether a line can be shown; a console may be closed, or lack characters. -/
  shows : Text → Bool
  /-- What is stored of bytes that the disk does not take as a whole: a full one keeps the front. -/
  cut? : ByteArray → Option ByteArray

/-- A host with room for everything, and whose shell has its files elsewhere. -/
def Host.standard : Host where
  request := Arguments.request
  install := id
  models := .standard
  shows _ := true
  cut? _ := none

end Mockup
