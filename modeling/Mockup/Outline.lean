import Mockup.Console.Markup
import Mockup.Document
import Mockup.Text.Quoted
import Mockup.Text.Split

/-!
# Outlines

An outline shows the structure of a document: one line a node, with its kind and its main
properties, and lines that lead from a node to its children. The labels have tags for the console,
and what they quote is escaped.
-/

namespace Mockup

/-- A labelled tree. -/
inductive Outline where
  | node (label : Text) (children : List Outline)
  deriving Repr

namespace Outline

mutual

/-- The lines of a node: its label at `lead`, and its children below it, indented by `indent`. -/
def print (lead indent : Text) : Outline → List Text
  | .node label children => (lead ++ label) :: printAll indent children

/-- The lines of children that are indented by `indent`; the last one ends the guide line. -/
def printAll (indent : Text) : List Outline → List Text
  | [] => []
  | [last] => last.print (indent ++ "└── ".toList) (indent ++ "    ".toList)
  | child :: children =>
    child.print (indent ++ "├── ".toList) (indent ++ "│   ".toList) ++ printAll indent children

end

/-- The lines of a whole outline. -/
def lines (outline : Outline) : List Text :=
  outline.print [] []

/-- The label of a node with the given properties. -/
def label (kind properties : Text) : Text :=
  "[bold cyan]".toList ++ kind ++ "[/bold cyan]".toList ++ Markup.escape properties

/-- A property in a label. -/
def property (name : String) (value : Text) : Text :=
  ' ' :: name.toList ++ '=' :: value

/-- A property with a text value. -/
def quotedProperty (name : String) (value : Text) : Text :=
  property name (Text.quoted value)

end Outline

open Outline (label property quotedProperty)

/-- An italic run in an outline. -/
def Inline.italicOutline (content : Text) : Outline :=
  .node (label "italic".toList (quotedProperty "content" content)) []

/-- An inline node in an outline. -/
def Inline.outline : Inline → Outline
  | .text content => .node (label "text".toList (quotedProperty "content" content)) []
  | .italic content => italicOutline content
  | .bold content italics =>
    .node (label "bold".toList ((content.map (quotedProperty "content")).getD []))
      ((italics.getD []).map italicOutline)

/-- A control in an outline. -/
def Control.outline (control : Control) : Outline :=
  let properties := match control with
    | .input title kind =>
      quotedProperty "label" title ++ quotedProperty "input_type" kind.name
    | .textarea title | .dropdown title _ | .checkbox title => quotedProperty "label" title
    | .button inner =>
      quotedProperty "content" inner.content ++ quotedProperty "variant" inner.variant.name ++
        (inner.navigateTo.map (quotedProperty "navigate_to")).getD []
  .node (label control.kind.name properties) []

/-- An item in an outline. -/
def Item.outline : Item → Outline
  | .header level children =>
    .node (label Kind.header.name (property "level" (Text.ofNat level.number)))
      (children.map Inline.outline)
  | .text children => .node (label Kind.text.name []) (children.map Inline.outline)
  | .control inner => inner.outline
  | .radioGroup title _ _ => .node (label Kind.radioGroup.name (quotedProperty "label" title)) []
  | .image .. => .node (label Kind.image.name []) []
  | .row controls => .node (label Kind.container.name []) (controls.map Control.outline)

mutual

/-- A block in an outline. -/
def Block.outline : Block → Outline
  | .item inner => inner.outline
  | .table _ => .node (label Kind.table.name []) []
  | .box outer children => .node (label outer.kind.name []) (Block.outlines children)
  | .screen inner => inner.outline
  | .workflow initial screens =>
    .node (label Kind.workflow.name (quotedProperty "initial_screen" initial))
      (Screen.outlines screens)

/-- Each of a list of blocks in an outline. -/
def Block.outlines : List Block → List Outline
  | [] => []
  | block :: blocks => block.outline :: Block.outlines blocks

/-- A screen in an outline. -/
def Screen.outline : Screen → Outline
  | ⟨id, children⟩ =>
    .node (label Kind.screen.name (quotedProperty "id" id)) (Block.outlines children)

/-- Each of a list of screens in an outline. -/
def Screen.outlines : List Screen → List Outline
  | [] => []
  | screen :: screens => screen.outline :: Screen.outlines screens

end

/-- The outline of a document under a title. -/
def Document.outline (title : Text) (document : Document) : Outline :=
  .node ("[bold]".toList ++ Markup.escape title ++ "[/bold]".toList)
    (Block.outlines document.blocks)

end Mockup
