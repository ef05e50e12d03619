import Mockup.Document
import Mockup.Reading.State

/-!
# Reading documents

A text is cut into lines at its line feeds, a carriage return at the end of a line is dropped, and
the lines are read one after the other. Unless blanks are preserved, each line is trimmed first.
-/

namespace Mockup

/-- A read document, with what was reported on the way. -/
structure Reading where
  blocks : List Block
  notes : List Note

namespace Reading

/-- The lines of a text. -/
def lines (text : Text) : List Text :=
  (Text.splitOn '\n' text).map fun line => (Text.before? ['\r'] line).getD line

/-- A line as it is read. -/
def prepare (options : Options) (line : Text) : Text :=
  if options.preserveWhitespace then line else Text.trim line

/-- Reads a text. -/
def read (options : Options) (registry : Registry) (text : Text) : Reading :=
  let (state, notes) := run options registry 1 ((lines text).map (prepare options)) .empty
  ⟨state.finished.reverse, notes⟩

/-- The log of a reading. -/
def events (reading : Reading) : List Event :=
  reading.notes.filterMap fun
    | .event event => some event
    | .diagnostic _ => none

/-- The diagnostics of a reading. -/
def diagnostics (reading : Reading) : List Diagnostic :=
  reading.notes.filterMap fun
    | .event _ => none
    | .diagnostic diagnostic => some diagnostic

/-- The document that was read, with the texts of the diagnostics if there are any. -/
def document (reading : Reading) : Document where
  blocks := reading.blocks
  errors :=
    match reading.diagnostics with
    | [] => none
    | diagnostics => some (diagnostics.map Diagnostic.message)

end Reading

end Mockup
