import Mockup.Document.Encoding
import Mockup.Proofs.WellFormed.Documents

/-!
# How deeply the nodes of a document are nested

A block that opens no further ones is a node with at most two more in it: a bold run in a line of
text holds italic ones. So a document that is read from a text, with its 64 blocks that stand in
each other at most, keeps well below what a library for data models can have.
-/

namespace Mockup

namespace Value

theorem nestingOf_map_le {α : Type} {write : α → Value} {limit : Nat}
    (bound : ∀ element, (write element).nesting ≤ limit) (elements : List α) :
    nestingOf (elements.map write) ≤ limit := by
  induction elements with
  | nil => exact Nat.zero_le limit
  | cons element elements ih => exact Nat.max_le.2 ⟨bound element, ih⟩

@[simp] theorem nesting_texts (contents : List Text) : (texts contents).nesting = 0 :=
  Nat.le_zero.1 (nestingOf_map_le (fun _ => Nat.le_refl 0) contents)

theorem nesting_ofOption_map_le {α : Type} {write : α → Value} {limit : Nat}
    (bound : ∀ value, (write value).nesting ≤ limit) (given : Option α) :
    (ofOption (given.map write)).nesting ≤ limit := by
  cases given with
  | none => exact Nat.zero_le limit
  | some value => exact bound value

theorem nesting_ofOption_text (given : Option Text) : (ofOption (given.map text)).nesting = 0 :=
  Nat.le_zero.1 (nesting_ofOption_map_le (fun _ => Nat.le_refl 0) given)

theorem nesting_ofOption_texts (given : Option (List Text)) :
    (ofOption (given.map texts)).nesting = 0 :=
  Nat.le_zero.1 (nesting_ofOption_map_le (fun contents => (nesting_texts contents).le) given)

@[simp] theorem nesting_block (kind : Kind) (values : List Value) :
    (block kind values).nesting = nestingOf values + 1 := by
  simp [block, nesting, nestingOf]

attribute [simp] nesting nestingOf nesting_ofOption_text nesting_ofOption_texts

end Value

theorem Inline.nesting_italicsToValue_le (contents : List Text) :
    (italicsToValue contents).nesting ≤ 1 :=
  Value.nestingOf_map_le (fun _ => Nat.le_refl 1) contents

theorem Inline.nesting_toValue_le (node : Inline) : node.toValue.nesting ≤ 2 := by
  cases node with
  | text | italic => exact Nat.le_succ 1
  | bold content italics =>
      have inside := Value.nesting_ofOption_map_le nesting_italicsToValue_le italics
      simpa [toValue] using inside

theorem Inline.nesting_listToValue_le (nodes : List Inline) : (listToValue nodes).nesting ≤ 2 :=
  Value.nestingOf_map_le nesting_toValue_le nodes

theorem Control.nesting_toValue (control : Control) : control.toValue.nesting = 1 := by
  cases control <;> simp [toValue]

theorem Item.nesting_toValue_le (item : Item) : item.toValue.nesting ≤ 3 := by
  cases item with
  | header level children =>
      have inside := Inline.nesting_listToValue_le children
      rw [toValue, Value.nesting_block]
      exact Nat.succ_le_succ (by simpa using inside)
  | text children =>
      have inside := Inline.nesting_listToValue_le children
      rw [toValue, Value.nesting_block]
      exact Nat.succ_le_succ (by simpa using inside)
  | control inner =>
      rw [toValue, inner.nesting_toValue]
      exact Nat.le_add_left 1 2
  | radioGroup label first more => simp [toValue]
  | image alt src => simp [toValue]
  | row controls =>
      have inside := Value.nestingOf_map_le
        (fun control : Control => control.nesting_toValue.le) controls
      simp only [toValue, Value.nesting_block, Value.nestingOf, Value.nesting]
      omega

theorem Table.nesting_toValue (table : Table) : table.toValue.nesting = 1 := by
  have rows := Value.nestingOf_map_le (fun cells => (Value.nesting_texts cells).le) table.rows
  simp [toValue, Nat.le_zero.1 rows]

theorem Box.nesting_toValue_le (outer : Box) : outer.toValue.nesting ≤ 2 := by
  cases outer with
  | card title => exact Value.nesting_ofOption_map_le Inline.nesting_listToValue_le title
  | grid config => exact Nat.zero_le 2
  | div className => simp [toValue]

mutual

theorem Block.nesting_toValue_le (block : Block) : block.toValue.nesting ≤ block.depth + 3 := by
  cases block with
  | item inner => exact inner.nesting_toValue_le
  | table inner =>
      rw [Block.toValue, inner.nesting_toValue]
      exact Nat.le_add_left 1 2
  | box outer children =>
      have front := outer.nesting_toValue_le
      have inside := Block.nestingOf_listToValue_le children
      simp only [Block.toValue, Block.depth, Value.nesting_block, Value.nestingOf, Value.nesting]
      omega
  | screen inner => exact Screen.nesting_toValue_le inner
  | workflow initial screens =>
      have inside := Screen.nestingOf_listToValue_le screens
      simp only [Block.toValue, Block.depth, Value.nesting_block, Value.nestingOf, Value.nesting]
      omega

theorem Block.nestingOf_listToValue_le (blocks : List Block) :
    Value.nestingOf (Block.listToValue blocks) ≤ Block.depthOf blocks + 3 := by
  cases blocks with
  | nil => exact Nat.zero_le _
  | cons block blocks =>
      have first := Block.nesting_toValue_le block
      have rest := Block.nestingOf_listToValue_le blocks
      simp only [Block.listToValue, Block.depthOf, Value.nestingOf]
      omega

theorem Screen.nesting_toValue_le (screen : Screen) :
    screen.toValue.nesting ≤ screen.depth + 3 := by
  obtain ⟨id, children⟩ := screen
  have inside := Block.nestingOf_listToValue_le children
  simp only [Screen.toValue, Screen.depth, Value.nesting_block, Value.nestingOf, Value.nesting]
  omega

theorem Screen.nestingOf_listToValue_le (screens : List Screen) :
    Value.nestingOf (Screen.listToValue screens) ≤ Screen.depthOf screens + 3 := by
  cases screens with
  | nil => exact Nat.zero_le _
  | cons screen screens =>
      have first := Screen.nesting_toValue_le screen
      have rest := Screen.nestingOf_listToValue_le screens
      simp only [Screen.listToValue, Screen.depthOf, Value.nestingOf]
      omega

end

/-- How many nodes stand in each other in a document that is read from a text, at most. -/
def Reading.nestingBound : Nat := 68

theorem Reading.nesting_document_le (options : Options) (registry : Registry) (text : Text) :
    (read options registry text).document.toValue.nesting ≤ nestingBound := by
  have inside := Block.nestingOf_listToValue_le (read options registry text).document.blocks
  have shallow := depthOf_blocks_le options registry text
  simp only [Document.toValue, Value.nesting, Value.nestingOf, Value.nesting_ofOption_texts,
    nestingBound]
  omega

end Mockup
