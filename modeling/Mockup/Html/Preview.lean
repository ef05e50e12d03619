import Mockup.Block
import Mockup.Document.Encoding
import Mockup.Html
import Mockup.Html.Grid
import Mockup.Json.Printer

/-!
# HTML previews

A preview shows a document as static markup with style classes of its own; nothing in it can be
operated. Rendering fails only where the gap of a grid cannot be computed.
-/

namespace Mockup

/-- Why a document has no preview. -/
inductive PreviewError where
  | badGap (cause : NumberError)
  /-- A plain run of text stands where a block is expected. -/
  | strayText
  deriving DecidableEq, Repr

open Html (Node Attribute classes styled)

/-- An italic run. -/
def Inline.emphasized (content : Text) : Node :=
  .element "em".toList [] [.text content]

/-- An inline node as markup. -/
def Inline.toHtml : Inline → Node
  | .text content => .text content
  | .italic content => emphasized content
  | .bold _ (some (first :: more)) =>
    .element "strong".toList [] ((first :: more).map emphasized)
  | .bold content _ => .element "strong".toList [] [.text (content.getD [])]

/-- An inline node that stands where a block is expected. Emphasis is shown by its JSON form. -/
def Inline.toStrayHtml : Inline → Except PreviewError Node
  | .text _ => .error .strayText
  | node => .ok (styled "div" "proto-unknown" [.text node.toJson.write])

/-- The label of a field. -/
def Html.label (className : String) (content : Text) : Node :=
  styled "label" className [.text content]

/-- What a password field shows. -/
def InputKind.placeholder : InputKind → Text
  | .text => []
  | .password => "••••••••".toList

/-- The style class of a button variant. -/
def ButtonVariant.htmlClass : ButtonVariant → Text
  | .primary => "proto-button-default".toList
  | .outline => "proto-button-outline".toList

/-- A class list with further classes, if there are any. -/
def Html.extendClasses (base : Text) (more : Option Text) : Text :=
  match more with
  | none | some [] => base
  | some more => base ++ ' ' :: more

/-- A button as markup; an arrow shows where it leads to. -/
def Button.toHtml (button : Button) : Node :=
  let base := "proto-button ".toList ++ button.variant.htmlClass
  let indicator := match button.navigateTo with
    | none | some [] => []
    | some target =>
      [.text [' '], styled "span" "proto-nav-indicator" [.text ("→ ".toList ++ target)]]
  .element "button".toList
    [classes (Html.extendClasses base button.className), .flag "disabled".toList]
    (.text button.content :: indicator)

/-- The options that a drop-down list shows. -/
def Control.shownOptions (options : Option (List Text)) : List Text :=
  match options with
  | none | some [] => ["Select an option".toList]
  | some options => options

/-- A control as markup. -/
def Control.toHtml : Control → Node
  | .input label kind =>
    styled "div" "proto-field"
      [Html.label "proto-label" label,
        .void "input".toList
          [.value "type".toList kind.name, classes "proto-input".toList,
            .value "placeholder".toList kind.placeholder, .flag "disabled".toList]]
  | .textarea label =>
    styled "div" "proto-field"
      [Html.label "proto-label" label,
        .element "textarea".toList
          [classes "proto-textarea".toList, .flag "disabled".toList] []]
  | .dropdown label options =>
    styled "div" "proto-field"
      [Html.label "proto-label" label,
        .element "select".toList [classes "proto-select".toList, .flag "disabled".toList]
          ((shownOptions options).map fun option => .element "option".toList [] [.text option])]
  | .checkbox label =>
    styled "div" "proto-checkbox"
      [.void "input".toList
          [.value "type".toList "checkbox".toList, classes "proto-checkbox-input".toList,
            .flag "disabled".toList],
        Html.label "proto-checkbox-label" label]
  | .button inner => inner.toHtml

/-- An option of a radio group as markup. -/
def Html.radioOption (name option : Text) : Node :=
  styled "div" "proto-radio-option"
    [.void "input".toList
        [.value "type".toList "radio".toList, classes "proto-radio-input".toList,
          .value "name".toList name, .flag "disabled".toList],
      Html.label "proto-radio-label" option]

/-- An item as markup. -/
def Item.toHtml : Item → Node
  | .header level children =>
    .element ('h' :: Text.ofNat level.number) [classes "proto-header".toList]
      (children.map Inline.toHtml)
  | .text children => styled "p" "proto-text" (children.map Inline.toHtml)
  | .control inner => inner.toHtml
  | .radioGroup label first more =>
    styled "div" "proto-radiogroup"
      [Html.label "proto-label" label,
        styled "div" "proto-radio-options" ((first :: more).map (Html.radioOption label))]
  | .image alt src =>
    .void "img".toList
      [classes "proto-image".toList, .value "src".toList src, .value "alt".toList alt]
  | .row controls => styled "div" "proto-container" (Node.lines (controls.map Control.toHtml))

/-- A table as markup. -/
def Table.toHtml (table : Table) : Node :=
  let row := fun (tag className : String) (cells : List Text) =>
    Node.element "tr".toList [] (cells.map fun cell => styled tag className [.text cell])
  styled "table" "proto-table"
    [.element "thead".toList [] [row "th" "proto-table-th" table.headers],
      .element "tbody".toList [] (table.rows.map (row "td" "proto-table-td"))]

/-- The header of a card, which only a card with a title has. -/
def Html.cardHeader (title : Option (List Inline)) : List Node :=
  match title with
  | none | some [] => []
  | some title => [styled "div" "proto-card-header" (title.map Inline.toHtml)]

/-- The inline style of a box; only a grid has one. -/
def Box.style : Box → Except PreviewError Text
  | .grid config =>
    match Grid.style config with
    | .error cause => .error (.badGap cause)
    | .ok style => .ok style
  | _ => .ok []

/-- A box with the given inline style as markup around its contents. -/
def Box.toHtml (style : Text) (contents : List Node) : Box → Node
  | .card title =>
    styled "div" "proto-card"
      (Html.cardHeader title ++ [styled "div" "proto-card-content" contents])
  | .grid _ =>
    .element "div".toList [classes "proto-grid".toList, .value "style".toList style] contents
  | .div className =>
    .element "div".toList [classes (Html.extendClasses "proto-div".toList className)] contents

/-- A screen as markup around its contents; the one that a workflow starts on is marked. -/
def Html.screen (initial : Bool) (id : Text) (contents : List Node) : Node :=
  let className := if initial then "proto-screen proto-screen-active" else "proto-screen"
  let badge :=
    if initial then [styled "span" "proto-screen-initial" [.text "Initial".toList]] else []
  .element "div".toList [classes className.toList, .value "data-screen-id".toList id]
    [styled "div" "proto-screen-header" (styled "span" "proto-screen-badge" [.text id] :: badge),
      styled "div" "proto-screen-content" contents]

mutual

/-- A block as markup. The style of a grid is computed before its contents. -/
def Block.toHtml : Block → Except PreviewError Node
  | .item inner => .ok inner.toHtml
  | .table inner => .ok inner.toHtml
  | .box outer children => do
    let style ← outer.style
    let contents ← Block.listToHtml children
    .ok (outer.toHtml style (Node.lines contents))
  | .screen inner => inner.toHtml none
  | .workflow initial screens => do
    let contents ← Screen.listToHtml initial screens
    .ok (.element "div".toList
      [classes "proto-workflow".toList, .value "data-initial-screen".toList initial] contents)

/-- Each of a list of blocks as markup. -/
def Block.listToHtml : List Block → Except PreviewError (List Node)
  | [] => .ok []
  | block :: blocks => do
    let node ← block.toHtml
    let nodes ← Block.listToHtml blocks
    .ok (node :: nodes)

/-- A screen as markup, given the initial screen of the workflow it stands in. -/
def Screen.toHtml (initial : Option Text) : Screen → Except PreviewError Node
  | ⟨id, children⟩ => do
    let contents ← Block.listToHtml children
    .ok (Html.screen (initial = some id) id (Node.lines contents))

/-- Each of a list of screens as markup. -/
def Screen.listToHtml (initial : Text) : List Screen → Except PreviewError (List Node)
  | [] => .ok []
  | screen :: screens => do
    let node ← screen.toHtml (some initial)
    let nodes ← Screen.listToHtml initial screens
    .ok (node :: nodes)

end

namespace Preview

/-- The preview of inline nodes. -/
def ofInline (nodes : List Inline) : Text :=
  Node.printAll (nodes.map Inline.toHtml)

/-- The preview of a list of blocks. -/
def ofBlocks (blocks : List Block) : Except PreviewError Text :=
  (Block.listToHtml blocks).map fun nodes => Node.printAll (Node.lines nodes)

/-- The preview of inline nodes that stand where blocks are expected. -/
def ofStrayInline (nodes : List Inline) : Except PreviewError Text :=
  (nodes.mapM Inline.toStrayHtml).map fun nodes => Node.printAll (Node.lines nodes)

end Preview

end Mockup
