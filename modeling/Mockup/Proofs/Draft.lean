import Mockup.Proofs.Text
import Mockup.Reading

/-!
# Drafts

A draft is a document as an author lays it out: lines, tables, boxes and workflows, nested in each
other. Its parts carry the proofs that they can be written down, so every draft has a notation: the
line that opens a block, what is in the block, and the line that closes it. A draft also says which
blocks it stands for. That reading the notation gives exactly these blocks is shown in
`Mockup.Proofs.Draft.RoundTrip`.
-/

namespace Mockup

namespace Draft

/-- A text that can be written on a line: it is not empty, stays on the line, and has no blanks
around it. -/
structure Caption where
  text : Text
  trimmed : Text.trim text = text
  nonempty : text ≠ []
  single : '\n' ∉ text

/-- A line that neither opens nor closes a block. -/
structure PlainLine extends Caption where
  opensNothing : Opener.ofLine? text = none
  closesNoBlock : text ≠ "]".toList
  closesNoCard : text ≠ "--]".toList

/-- The content of a cell of a table. -/
structure Cell extends Caption where
  barFree : '|' ∉ text

/-- A line of a table, which has at least one cell. -/
structure Row where
  cells : List Cell
  nonempty : cells ≠ []

/-- The style classes of a plain box. -/
structure ClassList extends Caption where
  bracketFree : ']' ∉ text

/-- The name of a screen. -/
structure ScreenName where
  text : Text
  nonempty : text ≠ []
  visible : ∀ character ∈ text, Text.isBlank character = false
  bracketFree : ']' ∉ text

/-- The name of the screen that a workflow starts on, as it can be set on the opening line. -/
structure InitialName extends ScreenName where
  equalsFree : '=' ∉ text

/-- What is written on the opening line of a box. -/
inductive BoxHead where
  | card (title : Option Caption)
  | grid (config : Caption)
  | div (className : Option ClassList)

end Draft

mutual

/-- A part of a document as it is laid out. -/
inductive Draft where
  | line (content : Draft.PlainLine)
  | table (header : Draft.Row) (rows : List Draft.Row)
  | box (head : Draft.BoxHead) (children : List Draft)
  /-- A workflow may name the screen it starts on. -/
  | workflow (initial : Option Draft.InitialName) (screens : List DraftScreen)

/-- A screen as it is laid out. -/
structure DraftScreen where
  id : Draft.ScreenName
  children : List Draft

end

namespace Draft

/-- The contents of the cells of a row. -/
def Row.texts (row : Row) : List Text :=
  row.cells.map fun cell => cell.text

/-- Cells between bars. -/
def rowLine (cells : List Text) : Text :=
  '|' :: cells.flatMap fun cell => ' ' :: cell ++ [' ', '|']

/-- The line under the header of a table. -/
def separator : Text := "|---|".toList

/-- The line that opens a box. -/
def BoxHead.opening : BoxHead → Text
  | .card none => "[--".toList
  | .card (some title) => "[--".toList ++ ' ' :: title.text
  | .grid config => "[grid".toList ++ ' ' :: config.text
  | .div none => "[".toList
  | .div (some className) => "[".toList ++ ' ' :: className.text

/-- The line that closes a box. -/
def BoxHead.closing : BoxHead → Text
  | .card _ => "--]".toList
  | .grid _ | .div _ => "]".toList

/-- The setting that names the screen a workflow starts on. -/
def initialSetting (initial : InitialName) : Text :=
  "initial=".toList ++ initial.text

/-- The line that opens a workflow. -/
def workflowOpening (initial : Option InitialName) : Text :=
  "[workflow".toList ++ initial.elim [] fun initial => ' ' :: initialSetting initial

/-- The line that opens a screen. -/
def screenOpening (id : ScreenName) : Text :=
  "[screen".toList ++ ' ' :: id.text

end Draft

mutual

/-- The lines of a draft. The empty line behind a table ends it. -/
def Draft.lines : Draft → List Text
  | .line content => [content.text]
  | .table header rows =>
      Draft.rowLine header.texts :: Draft.separator ::
        rows.map (fun row => Draft.rowLine row.texts) ++ [[]]
  | .box head children => head.opening :: Draft.linesOf children ++ [head.closing]
  | .workflow initial screens =>
      Draft.workflowOpening initial :: DraftScreen.linesOf screens ++ ["]".toList]

/-- The lines of several drafts, one after the other. -/
def Draft.linesOf : List Draft → List Text
  | [] => []
  | draft :: drafts => draft.lines ++ Draft.linesOf drafts

/-- The lines of a screen. -/
def DraftScreen.lines : DraftScreen → List Text
  | ⟨id, children⟩ => Draft.screenOpening id :: Draft.linesOf children ++ ["]".toList]

/-- The lines of several screens, one after the other. -/
def DraftScreen.linesOf : List DraftScreen → List Text
  | [] => []
  | screen :: screens => screen.lines ++ DraftScreen.linesOf screens

end

/-! ## The blocks of a draft -/

/-- The box that a draft of one stands for. -/
def Draft.BoxHead.box : Draft.BoxHead → Box
  | .card title => .card (title.map fun title => Inline.read title.text)
  | .grid config => .grid config.text
  | .div className => .div (className.map fun className => className.text)

/-- The screen that a workflow starts on: the one it names, or else its first one. -/
def Draft.initialScreen (initial : Option Draft.InitialName) (screens : List DraftScreen) : Text :=
  match initial, screens with
  | some initial, _ => initial.text
  | none, first :: _ => first.id.text
  | none, [] => "home".toList

mutual

/-- The block that a draft stands for. -/
def Draft.block : Draft → Block
  | .line content => .item (Item.ofLine content.text).2
  | .table header rows => .table ⟨header.texts, rows.map Draft.Row.texts⟩
  | .box head children => .box head.box (Draft.blocksOf children)
  | .workflow initial screens =>
      .workflow (Draft.initialScreen initial screens) (DraftScreen.screensOf screens)

/-- The blocks that several drafts stand for. -/
def Draft.blocksOf : List Draft → List Block
  | [] => []
  | draft :: drafts => draft.block :: Draft.blocksOf drafts

/-- The screen that a draft of one stands for. -/
def DraftScreen.screen : DraftScreen → Screen
  | ⟨id, children⟩ => ⟨id.text, Draft.blocksOf children⟩

/-- The screens that several drafts stand for. -/
def DraftScreen.screensOf : List DraftScreen → List Screen
  | [] => []
  | screen :: screens => screen.screen :: DraftScreen.screensOf screens

end

mutual

/-- How many blocks are open at the same time while a draft is read. -/
def Draft.depth : Draft → Nat
  | .line _ => 0
  | .table .. => 0
  | .box _ children => Draft.depthOf children + 1
  | .workflow _ screens => DraftScreen.depthOf screens + 1

/-- The greatest depth of several drafts. -/
def Draft.depthOf : List Draft → Nat
  | [] => 0
  | draft :: drafts => max draft.depth (Draft.depthOf drafts)

/-- The depth of a screen. -/
def DraftScreen.depth : DraftScreen → Nat
  | ⟨_, children⟩ => Draft.depthOf children + 1

/-- The greatest depth of several screens. -/
def DraftScreen.depthOf : List DraftScreen → Nat
  | [] => 0
  | screen :: screens => max screen.depth (DraftScreen.depthOf screens)

end

mutual

/-- The plain lines of a draft. -/
def Draft.plainLines : Draft → List Text
  | .line content => [content.text]
  | .table .. => []
  | .box _ children => Draft.plainLinesOf children
  | .workflow _ screens => DraftScreen.plainLinesOf screens

/-- The plain lines of several drafts. -/
def Draft.plainLinesOf : List Draft → List Text
  | [] => []
  | draft :: drafts => draft.plainLines ++ Draft.plainLinesOf drafts

/-- The plain lines of a screen. -/
def DraftScreen.plainLines : DraftScreen → List Text
  | ⟨_, children⟩ => Draft.plainLinesOf children

/-- The plain lines of several screens. -/
def DraftScreen.plainLinesOf : List DraftScreen → List Text
  | [] => []
  | screen :: screens => screen.plainLines ++ DraftScreen.plainLinesOf screens

end

end Mockup
