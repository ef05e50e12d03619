import Mockup.Document
import Mockup.Document.Library

/-!
# The JSON form of documents

A document and its nodes as values of the data model, and the JSON that is written for them. Each
node is an object whose first member `type` names its kind. A member whose value is absent is left
out; empty texts and empty lists stay.
-/

namespace Mockup

namespace Value

/-- A value that may be absent. -/
def ofOption : Option Value → Value
  | none => .nothing
  | some value => value

def texts (contents : List Text) : Value :=
  .list (contents.map .text)

/-- A node with its type in front. -/
def block (kind : Kind) (values : List Value) : Value :=
  .node (.block kind) (.text kind.name :: values)

end Value

def Inline.italicToValue (content : Text) : Value :=
  .node .italic [.text "italic".toList, .text content]

def Inline.italicsToValue (contents : List Text) : Value :=
  .list (contents.map italicToValue)

def Inline.toValue : Inline → Value
  | .text content => .node .plain [.text "text".toList, .text content]
  | .italic content => italicToValue content
  | .bold content italics =>
    .node .bold
      [.text "bold".toList, .ofOption (content.map .text), .ofOption (italics.map italicsToValue)]

/-- A list of inline nodes as a value. -/
def Inline.listToValue (nodes : List Inline) : Value :=
  .list (nodes.map toValue)

def Control.toValue : Control → Value
  | .input label kind => .block .input [.text label, .text kind.name]
  | .textarea label => .block .textarea [.text label]
  | .dropdown label options => .block .dropdown [.text label, .ofOption (options.map .texts)]
  | .checkbox label => .block .checkbox [.text label]
  | .button ⟨content, variant, className, navigateTo⟩ =>
    .block .button
      [.text content, .text variant.name, .ofOption (className.map .text),
        .ofOption (navigateTo.map .text)]

def Item.toValue : Item → Value
  | .header level children => .block .header [.number level.number, Inline.listToValue children]
  | .text children => .block .text [Inline.listToValue children]
  | .control inner => inner.toValue
  | .radioGroup label first more => .block .radioGroup [.text label, .texts (first :: more)]
  | .image alt src => .block .image [.text alt, .text src]
  | .row controls => .block .container [.list (controls.map Control.toValue)]

def Table.toValue (table : Table) : Value :=
  .block .table [.texts table.headers, .list (table.rows.map .texts)]

/-- What a box holds beside its children. -/
def Box.toValue : Box → Value
  | .card title => .ofOption (title.map Inline.listToValue)
  | .grid config => .text config
  | .div className => .ofOption (className.map .text)

mutual

def Block.toValue : Block → Value
  | .item inner => inner.toValue
  | .table inner => inner.toValue
  | .box outer children => .block outer.kind [outer.toValue, .list (Block.listToValue children)]
  | .screen inner => inner.toValue
  | .workflow initial screens =>
    .block .workflow [.text initial, .list (Screen.listToValue screens)]

/-- Each of a list of blocks as a value. -/
def Block.listToValue : List Block → List Value
  | [] => []
  | block :: blocks => block.toValue :: Block.listToValue blocks

def Screen.toValue : Screen → Value
  | ⟨id, children⟩ => .block .screen [.text id, .list (Block.listToValue children)]

/-- Each of a list of screens as a value. -/
def Screen.listToValue : List Screen → List Value
  | [] => []
  | screen :: screens => screen.toValue :: Screen.listToValue screens

end

def Document.toValue (document : Document) : Value :=
  .node .document
    [.list (Block.listToValue document.blocks), .ofOption (document.errors.map .texts)]

/-- An inline node as JSON. -/
def Inline.toJson (node : Inline) : Json :=
  node.toValue.written

/-- A control as JSON. -/
def Control.toJson (control : Control) : Json :=
  control.toValue.written

/-- A button as JSON. -/
def Button.toJson (button : Button) : Json :=
  (Control.button button).toJson

/-- An item as JSON. -/
def Item.toJson (item : Item) : Json :=
  item.toValue.written

/-- A document as JSON. -/
def Document.toJson (document : Document) : Json :=
  document.toValue.written

/-- The JSON that a library writes for a document, if it can. -/
def ModelLibrary.write (library : ModelLibrary) (document : Document) : Option Json :=
  library.dump document.toValue

end Mockup
