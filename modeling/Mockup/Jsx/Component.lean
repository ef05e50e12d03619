import Mockup.Jsx
import Mockup.Jsx.StateNames
import Mockup.Jsx.Widget
import Mockup.Text.Slug

/-!
# React components

A document becomes a function component. Each workflow shows the screen that its state names. A
button sets the state of the innermost workflow around it, or of the first workflow of the document
if it stands in none.
-/

namespace Mockup

open Jsx (Phrase Node Attribute classes)

/-- An italic run at a position among its neighbours. -/
def Inline.emphasizedPhrase (content : Text) (index : Nat) : Phrase :=
  .element "em".toList [.key index] [.text content]

/-- An inline node at a position among its neighbours. -/
def Inline.toPhrase (node : Inline) (index : Nat) : Phrase :=
  match node with
  | .text content => .text content
  | .italic content => emphasizedPhrase content index
  | .bold _ (some (first :: more)) =>
    .element "strong".toList [.key index] ((first :: more).mapIdx fun i content =>
      emphasizedPhrase content i)
  | .bold content _ => .element "strong".toList [.key index] [.text (content.getD [])]

/-- Inline nodes one after the other. -/
def Inline.toPhrases (nodes : List Inline) : List Phrase :=
  nodes.mapIdx fun index node => node.toPhrase index

namespace Jsx

/-- An element around further lines. -/
def wrap (tag : String) (attributes : List Attribute) (children : List Node) : Node :=
  .element tag.toList attributes children

/-- An element on one line. -/
def compact (tag : String) (attributes : List Attribute) (children : List Phrase) : Node :=
  .line (.element tag.toList attributes children)

/-- An element without content, on one line. -/
def single (tag : String) (attributes : List Attribute) : Node :=
  .line (.void tag.toList attributes)

/-- An attribute with a text value. -/
def property (name : String) (content : Text) : Attribute :=
  .text name.toList content

/-- The identifier of the field with the given label at a position among its neighbours. -/
def fieldId (kind : String) (label : Text) (index : Nat) : Text :=
  kind.toList ++ '-' :: Text.slug label ++ '-' :: Text.ofNat index

/-- The label of a field. -/
def fieldLabel (id label : Text) : Node :=
  compact "Label" [property "htmlFor" id] [.text label]

/-- A field: its label and what it is filled in with, below each other. -/
def field (index : Nat) (children : List Node) : Node :=
  wrap "div" [.key index, classes "space-y-2".toList] children

end Jsx

open Jsx (wrap compact single property fieldId fieldLabel field)

/-- A button. A click on it calls `setter`, if there is one and the button leads somewhere. -/
def Button.toJsx (setter : Option Text) (index : Nat) (button : Button) : Node :=
  let className := match button.className with
    | none | some [] => []
    | some className => [classes className]
  let onClick := match button.navigateTo, setter with
    | some (first :: more), some setter => [.onClick setter (first :: more)]
    | _, _ => []
  compact "Button"
    (.key index :: property "variant" button.variant.name :: className ++ onClick)
    [.text button.content]

/-- The list of options that a drop-down field opens. -/
def Jsx.select (id : Text) (options : List Text) : Node :=
  wrap "Select" []
    [wrap "SelectTrigger" [property "id" id]
        [single "SelectValue" [property "placeholder" "Select an option".toList]],
      wrap "SelectContent" [] <| options.mapIdx fun i option =>
        compact "SelectItem" [.key i, property "value" (Text.slug option)] [.text option]]

/-- A control at a position among its neighbours. -/
def Control.toJsx (setter : Option Text) (index : Nat) : Control → Node
  | .input label kind =>
    let id := fieldId "input" label index
    field index
      [fieldLabel id label, single "Input" [property "id" id, property "type" kind.name]]
  | .textarea label =>
    let id := fieldId "textarea" label index
    field index [fieldLabel id label, single "Textarea" [property "id" id]]
  | .dropdown label options =>
    let id := fieldId "select" label index
    field index [fieldLabel id label, Jsx.select id (options.getD [])]
  | .checkbox label =>
    let id := fieldId "checkbox" label index
    wrap "div" [.key index, classes "flex items-center space-x-2".toList]
      [single "Checkbox" [property "id" id],
        wrap "Label"
          [property "htmlFor" id, classes "text-sm font-medium leading-none".toList]
          [.line (.text label)]]
  | .button inner => inner.toJsx setter index

/-- An option of a radio group. -/
def Jsx.radioOption (group : Text) (index : Nat) (option : Text) : Node :=
  let id := group ++ '-' :: Text.ofNat index
  wrap "div" [.key index, classes "flex items-center space-x-2".toList]
    [single "RadioGroupItem" [property "id" id, property "value" (Text.slug option)],
      fieldLabel id option]

/-- The size of a heading. -/
def HeadingLevel.size (level : HeadingLevel) : Text :=
  match level.number with
  | 1 => "4xl".toList
  | 2 => "3xl".toList
  | 3 => "2xl".toList
  | 4 => "xl".toList
  | 5 => "lg".toList
  | _ => "base".toList

/-- An item at a position among its neighbours. -/
def Item.toJsx (setter : Option Text) (index : Nat) : Item → Node
  | .header level children =>
    .line (.element ('h' :: Text.ofNat level.number)
      [.key index, classes ("text-".toList ++ level.size ++ " font-bold".toList)]
      (Inline.toPhrases children))
  | .text children => compact "p" [.key index] (Inline.toPhrases children)
  | .control inner => inner.toJsx setter index
  | .radioGroup label first more =>
    field index
      [compact "Label" [] [.text label],
        wrap "RadioGroup" []
          ((first :: more).mapIdx (Jsx.radioOption (fieldId "radio" label index)))]
  | .image alt src =>
    single "img"
      [.key index, property "src" src, property "alt" alt, classes "max-w-full h-auto".toList]
  | .row controls =>
    wrap "div" [.key index, classes "flex gap-2".toList]
      (controls.mapIdx fun i control => control.toJsx setter i)

/-- A table at a position among its neighbours. -/
def Table.toJsx (index : Nat) (table : Table) : Node :=
  let cells := fun (tag : String) (texts : List Text) =>
    texts.mapIdx fun i text => compact tag [.key i] [.text text]
  wrap "Table" [.key index]
    [wrap "TableHeader" [] [wrap "TableRow" [] (cells "TableHead" table.headers)],
      wrap "TableBody" [] <| table.rows.mapIdx fun i row =>
        wrap "TableRow" [.key i] (cells "TableCell" row)]

/-- A box around its contents, at a position among its neighbours. -/
def Box.toJsx (index : Nat) (contents : List Node) : Box → Node
  | .card (some (first :: more)) =>
    wrap "Card" [.key index]
      [wrap "CardHeader" [] [compact "CardTitle" [] (Inline.toPhrases (first :: more))],
        wrap "CardContent" [classes "space-y-2".toList] contents]
  | .card _ =>
    wrap "Card" [.key index] [wrap "CardContent" [classes "pt-6 space-y-2".toList] contents]
  | .grid config =>
    wrap "div" [.key index, classes (Text.trim ("grid ".toList ++ config))] contents
  | .div className => wrap "div" [.key index, classes (className.getD [])] contents

mutual

/-- A block at a position among its neighbours. `setter` is called by its buttons, and `workflow`
is the number of the next workflow. -/
def Block.toJsx (setter : Option Text) (workflow index : Nat) : Block → Node
  | .item inner => inner.toJsx setter index
  | .table inner => inner.toJsx index
  | .box outer children => outer.toJsx index (Block.listToJsx setter workflow 0 children)
  | .screen inner => inner.toJsx setter workflow [.key index]
  | .workflow _ screens =>
    let names := StateNames.ofIndex workflow
    wrap "div" [.key index] (Screen.listToJsx names (workflow + 1) screens)

/-- Each of a list of blocks, the first of them at the given position. -/
def Block.listToJsx (setter : Option Text) (workflow index : Nat) : List Block → List Node
  | [] => []
  | block :: blocks =>
    block.toJsx setter workflow index ::
      Block.listToJsx setter (workflow + block.initialScreens.length) (index + 1) blocks

/-- A screen, with further attributes in front of its own ones. -/
def Screen.toJsx (setter : Option Text) (workflow : Nat) (attributes : List Attribute) :
    Screen → Node
  | ⟨id, children⟩ =>
    wrap "div" (attributes ++ [property "data-screen-id" id, classes "space-y-2".toList])
      (Block.listToJsx setter workflow 0 children)

/-- Each of the screens of a workflow, shown while the state of the workflow names it. -/
def Screen.listToJsx (names : StateNames) (workflow : Nat) : List Screen → List Node
  | [] => []
  | ⟨id, children⟩ :: screens =>
    .guard names.value id (Screen.toJsx (some names.setter) workflow [] ⟨id, children⟩) ::
      Screen.listToJsx names
        (workflow + (Block.initialScreensOf children).length) screens

end

namespace Component

/-- The line that declares the state of the workflow with the given number. -/
def stateLine (workflow : Nat) (initial : Text) : Text :=
  let names := StateNames.ofIndex workflow
  "  const [".toList ++ names.value ++ ", ".toList ++ names.setter ++ "] = useState(".toList ++
    Text.literal initial ++ ");".toList

/-- The lines of a module with one component that shows `body`. -/
def moduleLines (imports states body : List Text) : List Text :=
  imports ++ ["".toList, "export function GeneratedComponent() \x7b".toList] ++ states ++
    ["  return (".toList, "    <div className=\"space-y-2\">".toList] ++ body ++
    ["    </div>".toList, "  );".toList, "\x7d".toList]

/-- A module as text; each line ends with a line feed. -/
def printModule (lines : List Text) : Text :=
  lines.flatMap (· ++ ['\n'])

/-- The lines that import what a list of blocks is made of. -/
def imports (blocks : List Block) : List Text :=
  (Widget.usedIn blocks).map Widget.importLine

/-- The markup of a list of blocks. -/
def body (blocks : List Block) : List Node :=
  let setter := match Block.initialScreensOf blocks with
    | [] => none
    | _ :: _ => some (StateNames.ofIndex 0).setter
  Block.listToJsx setter 0 0 blocks

/-- The component for a list of blocks. -/
def ofBlocks (blocks : List Block) : Text :=
  let initials := Block.initialScreensOf blocks
  let stateImport :=
    if initials = [] then [] else ["import \x7b useState \x7d from 'react';".toList]
  printModule <| moduleLines (stateImport ++ imports blocks) (initials.mapIdx stateLine)
    (Node.printAll 3 (body blocks))

/-- The markup of inline nodes. -/
def ofInline (nodes : List Inline) : Text :=
  Phrase.printAll (Inline.toPhrases nodes)

/-- The component for inline nodes that stand where blocks are expected: each leaves an empty
line, except that a single one leaves nothing. -/
def ofStrayInline (nodes : List Inline) : Text :=
  let body := if nodes.length < 2 then [] else nodes.map fun _ => []
  printModule (moduleLines [] [] body)

end Component

end Mockup
