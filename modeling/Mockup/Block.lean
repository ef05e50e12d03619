import Mockup.Item

/-!
# Blocks

A document is a list of blocks. A block is an item, a table, a box around further blocks, or a
workflow: a set of screens of which one is shown at a time. Only screens stand directly in a
workflow, so a workflow is given by a list of screens and not by a list of blocks.
-/

namespace Mockup

/-- A table with its header cells and its rows of cells. -/
structure Table where
  headers : List Text
  rows : List (List Text)
  deriving DecidableEq, Repr

/-- The boxes that hold any blocks. -/
inductive Box where
  | card (title : Option (List Inline))
  | grid (config : Text)
  | div (className : Option Text)
  deriving DecidableEq, Repr

mutual

/-- A part of a document. -/
inductive Block where
  | item (item : Item)
  | table (table : Table)
  | box (box : Box) (children : List Block)
  | screen (screen : Screen)
  | workflow (initial : Text) (screens : List Screen)

/-- A named part of a workflow. -/
structure Screen where
  id : Text
  children : List Block

end

mutual

/-- Decides whether two blocks are equal. -/
def Block.decEq : (left right : Block) → Decidable (left = right)
  | .item left, .item right => decidable_of_iff (left = right) (by simp)
  | .table left, .table right => decidable_of_iff (left = right) (by simp)
  | .box left children, .box right others =>
    have := Block.decEqList children others
    decidable_of_iff (left = right ∧ children = others) (by simp)
  | .screen left, .screen right =>
    have := Screen.decEq left right
    decidable_of_iff (left = right) (by simp)
  | .workflow left screens, .workflow right others =>
    have := Screen.decEqList screens others
    decidable_of_iff (left = right ∧ screens = others) (by simp)
  | .item _, .table _ | .item _, .box .. | .item _, .screen _ | .item _, .workflow ..
  | .table _, .item _ | .table _, .box .. | .table _, .screen _ | .table _, .workflow ..
  | .box .., .item _ | .box .., .table _ | .box .., .screen _ | .box .., .workflow ..
  | .screen _, .item _ | .screen _, .table _ | .screen _, .box .. | .screen _, .workflow ..
  | .workflow .., .item _ | .workflow .., .table _ | .workflow .., .box ..
  | .workflow .., .screen _ => isFalse (by simp)

/-- Decides whether two lists of blocks are equal. -/
def Block.decEqList : (left right : List Block) → Decidable (left = right)
  | [], [] => isTrue rfl
  | left :: lefts, right :: rights =>
    have := Block.decEq left right
    have := Block.decEqList lefts rights
    decidable_of_iff (left = right ∧ lefts = rights) (by simp)
  | [], _ :: _ | _ :: _, [] => isFalse (by simp)

/-- Decides whether two screens are equal. -/
def Screen.decEq : (left right : Screen) → Decidable (left = right)
  | ⟨left, children⟩, ⟨right, others⟩ =>
    have := Block.decEqList children others
    decidable_of_iff (left = right ∧ children = others) (by simp)

/-- Decides whether two lists of screens are equal. -/
def Screen.decEqList : (left right : List Screen) → Decidable (left = right)
  | [], [] => isTrue rfl
  | left :: lefts, right :: rights =>
    have := Screen.decEq left right
    have := Screen.decEqList lefts rights
    decidable_of_iff (left = right ∧ lefts = rights) (by simp)
  | [], _ :: _ | _ :: _, [] => isFalse (by simp)

end

instance : DecidableEq Block := Block.decEq

instance : DecidableEq Screen := Screen.decEq

/-- The kinds of nodes in a document. -/
inductive Kind where
  | header
  | text
  | input
  | textarea
  | dropdown
  | checkbox
  | radioGroup
  | button
  | image
  | table
  | container
  | card
  | grid
  | div
  | screen
  | workflow
  deriving DecidableEq, Repr

namespace Kind

/-- All kinds. -/
def all : List Kind :=
  [.header, .text, .input, .textarea, .dropdown, .checkbox, .radioGroup, .button, .image, .table,
    .container, .card, .grid, .div, .screen, .workflow]

/-- The word for a kind in every output. -/
def name : Kind → Text
  | .header => "header".toList
  | .text => "text".toList
  | .input => "input".toList
  | .textarea => "textarea".toList
  | .dropdown => "dropdown".toList
  | .checkbox => "checkbox".toList
  | .radioGroup => "radiogroup".toList
  | .button => "button".toList
  | .image => "image".toList
  | .table => "table".toList
  | .container => "container".toList
  | .card => "card".toList
  | .grid => "grid".toList
  | .div => "div".toList
  | .screen => "screen".toList
  | .workflow => "workflow".toList

/-- The kind with the given name. -/
def ofName? (word : Text) : Option Kind :=
  all.find? fun kind => kind.name = word

@[simp] theorem ofName?_name (kind : Kind) : ofName? kind.name = some kind := by
  cases kind <;> decide

end Kind

/-- The kind of a control. -/
def Control.kind : Control → Kind
  | .input .. => .input
  | .textarea .. => .textarea
  | .dropdown .. => .dropdown
  | .checkbox .. => .checkbox
  | .button .. => .button

/-- The kind of an item. -/
def Item.kind : Item → Kind
  | .header .. => .header
  | .text .. => .text
  | .control inner => inner.kind
  | .radioGroup .. => .radioGroup
  | .image .. => .image
  | .row .. => .container

/-- The kinds of an item and of the controls in it. -/
def Item.kinds : Item → List Kind
  | .row controls => .container :: controls.map Control.kind
  | item => [item.kind]

/-- The kind of a box. -/
def Box.kind : Box → Kind
  | .card .. => .card
  | .grid .. => .grid
  | .div .. => .div

/-- The kind of a block. -/
def Block.kind : Block → Kind
  | .item inner => inner.kind
  | .table .. => .table
  | .box outer _ => outer.kind
  | .screen .. => .screen
  | .workflow .. => .workflow

mutual

/-- The kinds of a block and of everything in it, in document order. -/
def Block.kinds : Block → List Kind
  | .item inner => inner.kinds
  | .table _ => [.table]
  | .box outer children => outer.kind :: Block.kindsOf children
  | .screen inner => inner.kinds
  | .workflow _ screens => .workflow :: Screen.kindsOf screens

/-- The kinds in a list of blocks. -/
def Block.kindsOf : List Block → List Kind
  | [] => []
  | block :: blocks => block.kinds ++ Block.kindsOf blocks

/-- The kinds of a screen and of everything in it. -/
def Screen.kinds : Screen → List Kind
  | ⟨_, children⟩ => .screen :: Block.kindsOf children

/-- The kinds in a list of screens. -/
def Screen.kindsOf : List Screen → List Kind
  | [] => []
  | screen :: screens => screen.kinds ++ Screen.kindsOf screens

end

end Mockup
