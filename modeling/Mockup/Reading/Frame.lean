import Mockup.Block
import Mockup.Opener
import Mockup.Text.Split

/-!
# Open blocks

While a document is read line by line, the blocks whose end has not been seen are kept open. An
open block remembers the line that opened it and collects what belongs to it, the latest part
first. Boxes, screens and workflows nest and are kept as frames; a table ends with its last row and
holds nothing but cells.
-/

namespace Mockup

/-- An open box, screen or workflow. -/
inductive Frame where
  | box (line : Nat) (box : Box) (children : List Block)
  | screen (line : Nat) (id : Text) (children : List Block)
  /-- A workflow knows its initial screen from its directives, or else takes its first one. -/
  | workflow (line : Nat) (initial : Option Text) (screens : List Screen)

namespace Frame

/-- The line that opened the block. -/
def line : Frame → Nat
  | .box line .. => line
  | .screen line .. => line
  | .workflow line .. => line

/-- The kind of the block. -/
def kind : Frame → Kind
  | .box _ outer _ => outer.kind
  | .screen .. => .screen
  | .workflow .. => .workflow

/-- Whether the block is a workflow. -/
def isWorkflow : Frame → Bool
  | .workflow .. => true
  | _ => false

/-- The line that closes a block of the given kind. -/
def closerOf (kind : Kind) : Text :=
  if kind = .card then "--]".toList else "]".toList

/-- The line that closes the block. -/
def closer (frame : Frame) : Text :=
  closerOf frame.kind

/-- The block with one more part in it, if it takes such a part: a workflow takes only screens. -/
def add? : Frame → Block → Option Frame
  | .box line outer children, block => some (.box line outer (block :: children))
  | .screen line id children, block => some (.screen line id (block :: children))
  | .workflow line initial screens, .screen inner =>
    some (.workflow line initial (inner :: screens))
  | .workflow .., _ => none

/-- The screen that a workflow without an explicit initial screen and without screens starts on. -/
def defaultScreen : Text := "home".toList

/-- The finished block. -/
def close : Frame → Block
  | .box _ outer children => .box outer children.reverse
  | .screen _ id children => .screen ⟨id, children.reverse⟩
  | .workflow _ initial screens =>
    let screens := screens.reverse
    let first := (screens.head?.map Screen.id).getD defaultScreen
    .workflow (initial.getD first) screens

end Frame

/-- An open table. -/
structure OpenTable where
  line : Nat
  headers : List Text
  /-- The rows, the latest one first. -/
  rows : List (List Text)
  /-- Whether the next line may be the separator under the header. -/
  fresh : Bool

namespace OpenTable

/-- The cells of a line of a table. -/
def cells (line : Text) : List Text :=
  Text.entries '|' line

/-- A table of which the header has been read. -/
def start (number : Nat) (line : Text) : OpenTable :=
  ⟨number, cells line, [], true⟩

/-- The table with one more line, if the line still belongs to it. The line behind the header is
skipped as a separator if it holds a hyphen and a bar. -/
def add? (table : OpenTable) (line : Text) : Option OpenTable :=
  if table.fresh ∧ line.contains '-' ∧ line.contains '|' then some { table with fresh := false }
  else if line.contains '|' then
    some { table with rows := cells line :: table.rows, fresh := false }
  else none

/-- The finished table. -/
def close (table : OpenTable) : Block :=
  .table ⟨table.headers, table.rows.reverse⟩

end OpenTable

end Mockup
