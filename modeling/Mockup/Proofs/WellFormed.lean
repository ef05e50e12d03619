import Mockup.Block
import Mockup.Text.Split

/-!
# Well-formed blocks

What every part of a document that comes out of a reading satisfies, node by node: which lists are
not empty, what names and entries look like, and that screens stand in workflows and nowhere else.
Beside it stand two measures of whole blocks: the texts in a block and how deeply it nests.
-/

namespace Mockup

namespace Text

/-- A name of a screen. -/
def IsName (name : Text) : Prop :=
  name ≠ [] ∧ ∀ character ∈ name, isBlank character = false ∧ character ≠ ']'

/-- A trimmed piece of a text that ends at each `stop`. -/
def IsEntry (stop : Char) (entry : Text) : Prop :=
  trim entry = entry ∧ entry ≠ [] ∧ stop ∉ entry

end Text

/-- Whether a control is a button; all others are fields. -/
def Control.isButton : Control → Bool
  | .button _ => true
  | .input .. | .textarea _ | .dropdown .. | .checkbox _ => false

def Control.WellFormed : Control → Prop
  | .dropdown _ options => ∀ list ∈ options, ∀ option ∈ list, Text.IsEntry ',' option
  | .button inner => ∀ target ∈ inner.navigateTo, Text.IsName target
  | .input .. | .textarea _ | .checkbox _ => True

def Item.WellFormed : Item → Prop
  | .header level children => 1 ≤ level.number ∧ level.number ≤ 6 ∧ children ≠ []
  | .text children => children ≠ []
  | .control inner => inner.WellFormed
  | .radioGroup _ first more => ∀ option ∈ first :: more, Text.IsEntry ',' option
  | .image .. => True
  | .row controls =>
      2 ≤ controls.length ∧
        ((∀ control ∈ controls, control.isButton = true) ∨
          ∀ control ∈ controls, control.isButton = false) ∧
        ∀ control ∈ controls, control.WellFormed

def Table.WellFormed (table : Table) : Prop :=
  ∀ cells ∈ table.headers :: table.rows, ∀ cell ∈ cells, Text.IsEntry '|' cell

def Box.WellFormed : Box → Prop
  | .card title => ∀ children ∈ title, children ≠ []
  | .grid _ => True
  | .div className => ∀ name ∈ className, Text.IsEntry ']' name

/-- The texts in an inline node. -/
def Inline.texts : Inline → List Text
  | .text content | .italic content => [content]
  | .bold content italics => content.toList ++ italics.getD []

/-- The texts in a control. -/
def Control.texts : Control → List Text
  | .input label _ | .textarea label | .checkbox label => [label]
  | .dropdown label options => label :: options.getD []
  | .button inner => inner.content :: (inner.className.toList ++ inner.navigateTo.toList)

/-- The texts in an item. -/
def Item.texts : Item → List Text
  | .header _ children | .text children => children.flatMap Inline.texts
  | .control inner => inner.texts
  | .radioGroup label first more => label :: first :: more
  | .image alt src => [alt, src]
  | .row controls => controls.flatMap Control.texts

/-- The texts in a table. -/
def Table.texts (table : Table) : List Text :=
  table.headers ++ table.rows.flatten

/-- The texts that describe a box. -/
def Box.texts : Box → List Text
  | .card title => (title.getD []).flatMap Inline.texts
  | .grid config => [config]
  | .div className => className.toList

mutual

/-- A block that may stand in a document or a box and is well-formed in all of its parts. A screen
may only stand in a workflow. -/
def Block.WellFormed : Block → Prop
  | .item inner => inner.WellFormed
  | .table inner => inner.WellFormed
  | .box outer children => outer.WellFormed ∧ Block.AllWellFormed children
  | .screen _ => False
  | .workflow initial screens => Text.IsName initial ∧ Screen.AllWellFormed screens

def Block.AllWellFormed : List Block → Prop
  | [] => True
  | block :: blocks => block.WellFormed ∧ Block.AllWellFormed blocks

def Screen.WellFormed : Screen → Prop
  | ⟨id, children⟩ => Text.IsName id ∧ Block.AllWellFormed children

def Screen.AllWellFormed : List Screen → Prop
  | [] => True
  | screen :: screens => screen.WellFormed ∧ Screen.AllWellFormed screens

end

theorem Screen.WellFormed.isName {screen : Screen} (wellFormed : screen.WellFormed) :
    screen.id.IsName := by
  cases screen with
  | mk id children => exact wellFormed.1

mutual

/-- The texts in a block and in everything in it. -/
def Block.texts : Block → List Text
  | .item inner => inner.texts
  | .table inner => inner.texts
  | .box outer children => outer.texts ++ Block.textsOf children
  | .screen inner => inner.texts
  | .workflow initial screens => initial :: Screen.textsOf screens

def Block.textsOf : List Block → List Text
  | [] => []
  | block :: blocks => block.texts ++ Block.textsOf blocks

def Screen.texts : Screen → List Text
  | ⟨id, children⟩ => id :: Block.textsOf children

def Screen.textsOf : List Screen → List Text
  | [] => []
  | screen :: screens => screen.texts ++ Screen.textsOf screens

end

mutual

/-- The length of the longest chain of boxes, workflows and screens that stand in each other. -/
def Block.depth : Block → Nat
  | .item _ | .table _ => 0
  | .box _ children => Block.depthOf children + 1
  | .screen inner => inner.depth
  | .workflow _ screens => Screen.depthOf screens + 1

def Block.depthOf : List Block → Nat
  | [] => 0
  | block :: blocks => max block.depth (Block.depthOf blocks)

def Screen.depth : Screen → Nat
  | ⟨_, children⟩ => Block.depthOf children + 1

def Screen.depthOf : List Screen → Nat
  | [] => 0
  | screen :: screens => max screen.depth (Screen.depthOf screens)

end

/-! ## Sound blocks -/

/-- What is known of a block that is read where `room` blocks may still be opened inside of each
other. -/
structure Block.Sound (room : Nat) (block : Block) : Prop where
  wellFormed : block.WellFormed
  oneLine : ∀ text ∈ block.texts, '\n' ∉ text
  depth_le : block.depth ≤ room

/-- What is known of a screen that is read in a workflow. -/
structure Screen.Sound (room : Nat) (screen : Screen) : Prop where
  wellFormed : screen.WellFormed
  oneLine : ∀ text ∈ screen.texts, '\n' ∉ text
  depth_le : screen.depth ≤ room

variable {room : Nat}

theorem Block.Sound.all {blocks : List Block} (sound : ∀ block ∈ blocks, block.Sound room) :
    Block.AllWellFormed blocks ∧ (∀ text ∈ Block.textsOf blocks, '\n' ∉ text) ∧
      Block.depthOf blocks ≤ room := by
  induction blocks with
  | nil => simp [Block.AllWellFormed, Block.textsOf, Block.depthOf]
  | cons block blocks ih =>
      obtain ⟨first, others⟩ := List.forall_mem_cons.1 sound
      obtain ⟨wellFormed, oneLine, depth_le⟩ := ih others
      refine ⟨⟨first.wellFormed, wellFormed⟩, ?_, ?_⟩
      · rw [Block.textsOf]
        exact List.forall_mem_append.2 ⟨first.oneLine, oneLine⟩
      · rw [Block.depthOf]
        exact Nat.max_le.2 ⟨first.depth_le, depth_le⟩

theorem Screen.Sound.all {screens : List Screen} (sound : ∀ screen ∈ screens, screen.Sound room) :
    Screen.AllWellFormed screens ∧ (∀ text ∈ Screen.textsOf screens, '\n' ∉ text) ∧
      Screen.depthOf screens ≤ room := by
  induction screens with
  | nil => simp [Screen.AllWellFormed, Screen.textsOf, Screen.depthOf]
  | cons screen screens ih =>
      obtain ⟨first, others⟩ := List.forall_mem_cons.1 sound
      obtain ⟨wellFormed, oneLine, depth_le⟩ := ih others
      refine ⟨⟨first.wellFormed, wellFormed⟩, ?_, ?_⟩
      · rw [Screen.textsOf]
        exact List.forall_mem_append.2 ⟨first.oneLine, oneLine⟩
      · rw [Screen.depthOf]
        exact Nat.max_le.2 ⟨first.depth_le, depth_le⟩

/-- A box takes one of the blocks that may be opened inside of each other. -/
theorem Block.Sound.box {outer : Box} {children : List Block} (wellFormed : outer.WellFormed)
    (oneLine : ∀ text ∈ outer.texts, '\n' ∉ text)
    (sound : ∀ child ∈ children, child.Sound room) :
    Block.Sound (room + 1) (.box outer children) := by
  obtain ⟨childrenWellFormed, childrenOneLine, childrenDepth⟩ := Block.Sound.all sound
  refine ⟨⟨wellFormed, childrenWellFormed⟩, ?_, ?_⟩
  · rw [Block.texts]
    exact List.forall_mem_append.2 ⟨oneLine, childrenOneLine⟩
  · rw [Block.depth]
    exact Nat.succ_le_succ childrenDepth

theorem Screen.Sound.mk_of_children {id : Text} {children : List Block} (named : id.IsName)
    (oneLine : '\n' ∉ id) (sound : ∀ child ∈ children, child.Sound room) :
    Screen.Sound (room + 1) ⟨id, children⟩ := by
  obtain ⟨childrenWellFormed, childrenOneLine, childrenDepth⟩ := Block.Sound.all sound
  refine ⟨⟨named, childrenWellFormed⟩, ?_, ?_⟩
  · rw [Screen.texts]
    exact List.forall_mem_cons.2 ⟨oneLine, childrenOneLine⟩
  · rw [Screen.depth]
    exact Nat.succ_le_succ childrenDepth

theorem Block.Sound.workflow {initial : Text} {screens : List Screen} (named : initial.IsName)
    (oneLine : '\n' ∉ initial) (sound : ∀ screen ∈ screens, screen.Sound room) :
    Block.Sound (room + 1) (.workflow initial screens) := by
  obtain ⟨screensWellFormed, screensOneLine, screensDepth⟩ := Screen.Sound.all sound
  refine ⟨⟨named, screensWellFormed⟩, ?_, ?_⟩
  · rw [Block.texts]
    exact List.forall_mem_cons.2 ⟨oneLine, screensOneLine⟩
  · rw [Block.depth]
    exact Nat.succ_le_succ screensDepth

end Mockup
