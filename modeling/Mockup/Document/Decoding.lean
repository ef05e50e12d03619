import Mockup.Document
import Mockup.Document.Library

/-!
# Reading documents from JSON

The document that a value of the data model stands for, and reading it from JSON.
-/

namespace Mockup

namespace Value

def text? : Value → Option Text
  | .text content => some content
  | _ => none

def elements? : Value → Option (List Value)
  | .list elements => some elements
  | _ => none

def texts? (value : Value) : Option (List Text) :=
  value.elements?.bind fun elements => elements.mapM text?

/-- Reads a value that may be absent. -/
def optional? {α : Type} (read : Value → Option α) : Value → Option (Option α)
  | .nothing => some none
  | value => (read value).map some

end Value

def Inline.italicOfValue? : Value → Option Text
  | .node .italic [_, content] => content.text?
  | _ => none

def Inline.italicsOfValue? (value : Value) : Option (List Text) :=
  value.elements?.bind fun elements => elements.mapM italicOfValue?

def Inline.ofValue? : Value → Option Inline
  | .node .plain [_, content] => .text <$> content.text?
  | .node .italic [_, content] => .italic <$> content.text?
  | .node .bold [_, content, italics] => do
    let content ← content.optional? Value.text?
    let italics ← italics.optional? italicsOfValue?
    some (.bold content italics)
  | _ => none

def Inline.listOfValue? (value : Value) : Option (List Inline) :=
  value.elements?.bind fun elements => elements.mapM ofValue?

def InputKind.ofValue? (value : Value) : Option InputKind :=
  value.text?.bind fun word => [InputKind.text, .password].find? fun kind => kind.name = word

def ButtonVariant.ofValue? (value : Value) : Option ButtonVariant :=
  value.text?.bind fun word =>
    [ButtonVariant.primary, .outline].find? fun variant => variant.name = word

def HeadingLevel.ofValue? : Value → Option HeadingLevel
  | .number (.ofNat number) => ofNat? number
  | _ => none

def Control.ofValue? : Value → Option Control
  | .node (.block .input) [_, label, kind] => do
    let label ← label.text?
    let kind ← InputKind.ofValue? kind
    some (.input label kind)
  | .node (.block .textarea) [_, label] => .textarea <$> label.text?
  | .node (.block .dropdown) [_, label, options] => do
    let label ← label.text?
    let options ← options.optional? Value.texts?
    some (.dropdown label options)
  | .node (.block .checkbox) [_, label] => .checkbox <$> label.text?
  | .node (.block .button) [_, content, variant, className, navigateTo] => do
    let content ← content.text?
    let variant ← ButtonVariant.ofValue? variant
    let className ← className.optional? Value.text?
    let navigateTo ← navigateTo.optional? Value.text?
    some (.button ⟨content, variant, className, navigateTo⟩)
  | _ => none

def Item.ofValue? : Value → Option Item
  | .node (.block .header) [_, level, children] => do
    let level ← HeadingLevel.ofValue? level
    let children ← Inline.listOfValue? children
    some (.header level children)
  | .node (.block .text) [_, children] => .text <$> Inline.listOfValue? children
  | .node (.block .radioGroup) [_, label, options] => do
    let label ← label.text?
    match ← options.texts? with
    | [] => none
    | first :: more => some (.radioGroup label first more)
  | .node (.block .image) [_, alt, src] => do
    let alt ← alt.text?
    let src ← src.text?
    some (.image alt src)
  | .node (.block .container) [_, .list controls] => .row <$> controls.mapM Control.ofValue?
  | value => .control <$> Control.ofValue? value

def Table.ofValues? (headers rows : Value) : Option Table := do
  let headers ← headers.texts?
  let rows ← rows.elements?
  let rows ← rows.mapM Value.texts?
  some ⟨headers, rows⟩

/-- Reads a box of the given kind, given what it holds beside its children. -/
def Box.ofValue? : Kind → Value → Option Box
  | .card, title => .card <$> title.optional? Inline.listOfValue?
  | .grid, config => .grid <$> config.text?
  | .div, className => .div <$> className.optional? Value.text?
  | _, _ => none

mutual

def Block.ofValue? : Value → Option Block
  | .node (.block .table) [_, headers, rows] => .table <$> Table.ofValues? headers rows
  | .node (.block .screen) [_, id, .list children] => do
    let id ← id.text?
    let children ← Block.listOfValues? children
    some (.screen ⟨id, children⟩)
  | .node (.block .workflow) [_, initial, .list screens] => do
    let initial ← initial.text?
    let screens ← Screen.listOfValues? screens
    some (.workflow initial screens)
  | value@(.node (.block kind) [_, box, .list children]) =>
    match kind with
    | .card | .grid | .div => do
      let box ← Box.ofValue? kind box
      let children ← Block.listOfValues? children
      some (.box box children)
    | _ => .item <$> Item.ofValue? value
  | value => .item <$> Item.ofValue? value
termination_by structural value => value

def Block.listOfValues? : List Value → Option (List Block)
  | [] => some []
  | value :: values => do
    let block ← Block.ofValue? value
    let blocks ← Block.listOfValues? values
    some (block :: blocks)

def Screen.ofValue? : Value → Option Screen
  | .node (.block .screen) [_, id, .list children] => do
    let id ← id.text?
    let children ← Block.listOfValues? children
    some ⟨id, children⟩
  | _ => none

def Screen.listOfValues? : List Value → Option (List Screen)
  | [] => some []
  | value :: values => do
    let screen ← Screen.ofValue? value
    let screens ← Screen.listOfValues? values
    some (screen :: screens)

end

def Document.ofValue? : Value → Option Document
  | .node .document [.list blocks, errors] => do
    let blocks ← Block.listOfValues? blocks
    let errors ← errors.optional? Value.texts?
    some ⟨blocks, errors⟩
  | _ => none

/-- The document that a library reads from JSON, if it can. -/
def ModelLibrary.read (library : ModelLibrary) (json : Json) : Option Document :=
  (library.validate .document json).bind Document.ofValue?

/-- Reads a document. -/
def Document.ofJson? (json : Json) : Option Document :=
  ModelLibrary.standard.read json

/-- Reads a list of inline nodes. -/
def Inline.listOfJson? (json : Json) : Option (List Inline) :=
  (json.validate (.list (.oneOf Model.inlines) 0)).bind listOfValue?

/-- Reads an array of blocks. -/
def Block.arrayOfJson? (json : Json) : Option (List Block) :=
  (json.validate (.list (.oneOf Model.blocks) 0)).bind fun value =>
    value.elements?.bind Block.listOfValues?

end Mockup
