import Mockup.Proofs.Jsx.Properties
import Mockup.Proofs.Jsx.Wiring
import Mockup.Proofs.Text.Cut

/-!
# Identifiers of fields

The label of a field refers to the field by an identifier, which is made of the kind of the field,
the slug of its label, and the position of the field among its neighbours; the identifier of an
option has the number of the option behind it. These parts can be read off an identifier again, so
fields share an identifier exactly if they agree in all of them. Positions tell neighbours apart,
but they are counted anew in every box, screen and row.
-/

namespace Mockup

open Jsx (Node fieldId)

/-- The kinds of fields with one identifier. -/
inductive Anchor.Kind where
  | input
  | textarea
  | select
  | checkbox
  deriving DecidableEq, Repr

/-- The word for a kind of fields in identifiers. -/
def Anchor.Kind.name : Kind → String
  | .input => "input"
  | .textarea => "textarea"
  | .select => "select"
  | .checkbox => "checkbox"

/-- A part of a document that has an identifier: a field at a position among its neighbours, or an
option with its number in a radio group. -/
inductive Anchor where
  | field (kind : Anchor.Kind) (label : Text) (index : Nat)
  | option (group : Text) (index number : Nat)
  deriving DecidableEq, Repr

namespace Anchor

def id : Anchor → Text
  | .field kind label index => fieldId kind.name label index
  | .option group index number => fieldId "radio" group index ++ '-' :: Text.ofNat number

/-- The position of the field, or of the radio group of the option, among its neighbours. -/
def index : Anchor → Nat
  | .field _ _ index => index
  | .option _ index _ => index

/-- The anchor with the slug of its label for the label. -/
def slugged : Anchor → Anchor
  | .field kind label index => .field kind (Text.slug label) index
  | .option group index number => .option (Text.slug group) index number

end Anchor

def Control.anchors (index : Nat) : Control → List Anchor
  | .input label _ => [.field .input label index]
  | .textarea label => [.field .textarea label index]
  | .dropdown label _ => [.field .select label index]
  | .checkbox label => [.field .checkbox label index]
  | .button _ => []

def Item.anchors (index : Nat) : Item → List Anchor
  | .control inner => inner.anchors index
  | .radioGroup label first more =>
    (first :: more).mapIdx fun number _ => .option label index number
  | .row controls => (controls.mapIdx fun i control => control.anchors i).flatten
  | .header .. | .text _ | .image .. => []

/-- The anchors of a block at a place, without those of the blocks inside of it. -/
def Block.anchors (place : Place) : Block → List Anchor
  | .item inner => inner.anchors (place.headD 0)
  | .table _ | .box .. | .screen _ | .workflow .. => []

/-- The anchors of blocks at their places. -/
def anchorsAmong (blocks : List (Place × Block)) : List Anchor :=
  blocks.flatMap fun (place, block) => block.anchors place

/-- The anchors of a document, in document order. -/
def Component.anchors (blocks : List Block) : List Anchor :=
  anchorsAmong (Block.walkOf [] 0 blocks)

namespace Anchor

theorem hyphen_not_mem_ofNat (number : Nat) : '-' ∉ Text.ofNat number := by
  intro member
  have digit : '-'.isDigit = true := Nat.isDigit_of_mem_toDigits (by decide) (by decide) member
  cases digit

theorem hyphen_not_mem_name (kind : Kind) : '-' ∉ kind.name.toList := by
  cases kind <;> decide

theorem fieldId_eq (kind : String) (label : Text) (index : Nat) :
    fieldId kind label index =
      kind.toList ++ '-' :: (Text.slug label ++ '-' :: Text.ofNat index) := by
  simp [fieldId]

variable {kind other : String}

theorem fieldId_inj (plain : '-' ∉ kind.toList) (otherPlain : '-' ∉ other.toList)
    {label text : Text} {index position : Nat} :
    fieldId kind label index = fieldId other text position ↔
      kind = other ∧ Text.slug label = Text.slug text ∧ index = position := by
  rw [fieldId_eq, fieldId_eq, Text.append_cons_inj_left plain otherPlain,
    Text.append_cons_inj_right (hyphen_not_mem_ofNat index) (hyphen_not_mem_ofNat position),
    Text.ofNat_injective.eq_iff, String.toList_inj]

/-- The word in front tells the kind, whatever follows the identifier of the field. -/
theorem fieldId_ne_append (plain : '-' ∉ kind.toList) (otherPlain : '-' ∉ other.toList)
    (differs : kind ≠ other) (label text : Text) (index position : Nat) (rest : Text) :
    fieldId kind label index ≠ fieldId other text position ++ rest := by
  rw [fieldId_eq, fieldId_eq, List.append_assoc, List.cons_append]
  intro same
  exact differs (String.toList_inj.1 ((Text.append_cons_inj_left plain otherPlain).1 same).1)

theorem name_injective : Function.Injective Kind.name := by
  intro left right same
  cases left <;> cases right <;> first | rfl | simp [Kind.name] at same

theorem name_ne_radio (kind : Kind) : kind.name ≠ "radio" := by
  cases kind <;> decide

/-- Two anchors share an identifier exactly if they differ in nothing but what slugs leave out. -/
theorem id_eq_id_iff {left right : Anchor} :
    left.id = right.id ↔ left.slugged = right.slugged := by
  have radio : '-' ∉ "radio".toList := by decide
  cases left with
  | field kind label index =>
      cases right with
      | field other text position =>
          simp [id, slugged, fieldId_inj (hyphen_not_mem_name kind) (hyphen_not_mem_name other),
            name_injective.eq_iff]
      | option group position number =>
          have differs := fieldId_ne_append (hyphen_not_mem_name kind) radio (name_ne_radio kind)
            label group index position ('-' :: Text.ofNat number)
          simp [id, slugged, differs]
  | option group index number =>
      cases right with
      | field other text position =>
          have differs := fieldId_ne_append (hyphen_not_mem_name other) radio
            (name_ne_radio other) text group position index ('-' :: Text.ofNat number)
          simp [id, slugged, differs.symm]
      | option text position place =>
          rw [id, id, Text.append_cons_inj_right (hyphen_not_mem_ofNat number)
            (hyphen_not_mem_ofNat place), fieldId_inj radio radio, Text.ofNat_injective.eq_iff]
          simp [slugged, and_assoc]

/-- Anchors have different identifiers exactly if they differ in what slugs keep. -/
theorem nodup_ids_iff {anchors : List Anchor} :
    (anchors.map id).Nodup ↔ (anchors.map slugged).Nodup := by
  simp only [List.Nodup, List.pairwise_map, ne_eq, id_eq_id_iff]

end Anchor

/-! ## Where identifiers stand in markup -/

theorem map_mapIdx {α β γ : Type} (values : List α) (make : Nat → α → β) (image : β → γ) :
    (values.mapIdx make).map image = values.mapIdx fun index value => image (make index value) :=
  List.ext_getElem (by simp) fun _ _ _ => by simp

@[simp] theorem anchorsAmong_append (front rest : List (Place × Block)) :
    anchorsAmong (front ++ rest) = anchorsAmong front ++ anchorsAmong rest :=
  List.flatMap_append

@[simp] theorem anchorsAmong_cons (place : Place) (block : Block)
    (blocks : List (Place × Block)) :
    anchorsAmong ((place, block) :: blocks) = block.anchors place ++ anchorsAmong blocks := rfl

@[simp] theorem anchorsAmong_nil : anchorsAmong [] = [] := rfl

/-- The attributes that hold identifiers: those of fields, and those of labels that refer to
fields. -/
def identifying : List String :=
  ["id", "htmlFor"]

variable {name : String} {setter : Option Text}

theorem mem_identifying : name ∈ identifying ↔ name = "id" ∨ name = "htmlFor" := by
  simp [identifying]

theorem Button.contents_toJsx (identifies : name ∈ identifying) (button : Button) (index : Nat) :
    (button.toJsx setter index).contents name = [] := by
  obtain ⟨content, variant, className, target⟩ := button
  rcases className with _ | _ | ⟨_, _⟩ <;> rcases target with _ | _ | ⟨_, _⟩ <;> cases setter <;>
    rcases mem_identifying.1 identifies with rfl | rfl <;> simp [Button.toJsx]

/-- A drop-down field has its identifier, and its options have none. -/
theorem Jsx.contents_select (identifies : name ∈ identifying) (id : Text) (options : List Text) :
    (Jsx.select id options).contents name = if "id" = name then [id] else [] := by
  have items : Node.contentsOf name (options.mapIdx fun i option =>
      Jsx.compact "SelectItem" [.key i, Jsx.property "value" (Text.slug option)]
        [.text option]) = [] := by
    refine Node.contentsOf_mapIdx_eq_nil options fun i option => ?_
    rcases mem_identifying.1 identifies with rfl | rfl <;> simp
  rcases mem_identifying.1 identifies with rfl | rfl <;> simp [Jsx.select, items]

theorem Control.contents_toJsx (identifies : name ∈ identifying) (control : Control)
    (index : Nat) :
    (control.toJsx setter index).contents name = (control.anchors index).map Anchor.id := by
  cases control with
  | button inner => exact inner.contents_toJsx identifies index
  | dropdown label options =>
      have menu := Jsx.contents_select identifies (fieldId "select" label index)
        (options.getD [])
      rcases mem_identifying.1 identifies with rfl | rfl <;>
        simp [Control.toJsx, Control.anchors, Anchor.id, Anchor.Kind.name, menu]
  | input | textarea | checkbox =>
      rcases mem_identifying.1 identifies with rfl | rfl <;>
        simp [Control.toJsx, Control.anchors, Anchor.id, Anchor.Kind.name, Node.contents]

theorem Jsx.contents_radioOption (identifies : name ∈ identifying) (group option : Text)
    (index : Nat) :
    (Jsx.radioOption group index option).contents name = [group ++ '-' :: Text.ofNat index] := by
  rcases mem_identifying.1 identifies with rfl | rfl <;> simp [Jsx.radioOption]

theorem Item.contents_toJsx (identifies : name ∈ identifying) (item : Item) (index : Nat) :
    (item.toJsx setter index).contents name = (item.anchors index).map Anchor.id := by
  cases item with
  | control inner => exact inner.contents_toJsx identifies index
  | header | text | image =>
      rcases mem_identifying.1 identifies with rfl | rfl <;>
        simp [Item.toJsx, Item.anchors, Node.contents, Jsx.Phrase.contents]
  | radioGroup label first more =>
      have options : Node.contentsOf name ((first :: more).mapIdx
          (Jsx.radioOption (fieldId "radio" label index))) =
          ((first :: more).mapIdx fun number _ =>
            Anchor.option label index number).map Anchor.id := by
        rw [map_mapIdx]
        exact Node.contentsOf_mapIdx_singleton (first :: more) fun number option =>
          Jsx.contents_radioOption identifies (fieldId "radio" label index) option number
      rw [Item.anchors, ← options]
      rcases mem_identifying.1 identifies with rfl | rfl <;> simp [Item.toJsx]
  | row controls =>
      have each : Node.contentsOf name (controls.mapIdx fun i control =>
          control.toJsx setter i) = _ :=
        Node.contentsOf_mapIdx controls fun i control => control.contents_toJsx identifies i
      rw [Item.anchors, List.map_flatten, map_mapIdx]
      rcases mem_identifying.1 identifies with rfl | rfl <;> simp [Item.toJsx, each]

/-- The attributes of a screen are no identifiers. -/
theorem Screen.contents_toJsx_of_children (identifies : name ∈ identifying) {anchors : List Text}
    {workflow : Nat} {attributes : List Jsx.Attribute} (plain : Jsx.contentsIn name attributes = [])
    {id : Text} {children : List Block}
    (inside : Node.contentsOf name (Block.listToJsx setter workflow 0 children) = anchors) :
    (Screen.toJsx setter workflow attributes ⟨id, children⟩).contents name = anchors := by
  rw [Screen.toJsx, Jsx.contents_wrap, inside]
  simp only [Jsx.contentsIn, List.flatMap_append] at plain ⊢
  rw [plain]
  rcases mem_identifying.1 identifies with rfl | rfl <;> rfl

mutual

/-- The identifiers in the markup of a block are those of its anchors. -/
theorem Block.contents_toJsx (identifies : name ∈ identifying) {setter : Option Text}
    {workflow : Nat} (block : Block) (place : Place) (index : Nat) :
    (block.toJsx setter workflow index).contents name =
      (anchorsAmong (block.walk (index :: place))).map Anchor.id := by
  cases block with
  | item inner =>
      rw [Block.toJsx, inner.contents_toJsx identifies, Block.walk, anchorsAmong_cons,
        anchorsAmong_nil, List.append_nil]
      rfl
  | table inner => exact inner.contents_toJsx index
  | box outer children =>
      have unclassed : "className" ≠ name := by
        rcases mem_identifying.1 identifies with rfl | rfl <;> decide
      rw [Block.toJsx, outer.contents_toJsx unclassed]
      exact Block.contentsOf_listToJsx identifies children (index :: place) 0
  | screen inner => exact Screen.contents_toJsx identifies rfl inner (index :: place)
  | workflow initial screens =>
      exact Screen.contentsOf_listToJsx identifies screens (index :: place) 0

theorem Block.contentsOf_listToJsx (identifies : name ∈ identifying) {setter : Option Text}
    {workflow : Nat} (blocks : List Block) (place : Place) (index : Nat) :
    Node.contentsOf name (Block.listToJsx setter workflow index blocks) =
      (anchorsAmong (Block.walkOf place index blocks)).map Anchor.id := by
  cases blocks with
  | nil => rfl
  | cons block blocks =>
      rw [Block.listToJsx, Jsx.Node.contentsOf_cons, Block.contents_toJsx identifies block place,
        Block.contentsOf_listToJsx identifies blocks place, Block.walkOf, anchorsAmong_append,
        List.map_append]

theorem Screen.contents_toJsx (identifies : name ∈ identifying) {setter : Option Text}
    {workflow : Nat} {attributes : List Jsx.Attribute}
    (plain : Jsx.contentsIn name attributes = []) (screen : Screen) (place : Place) :
    (screen.toJsx setter workflow attributes).contents name =
      (anchorsAmong (screen.walk place)).map Anchor.id := by
  cases screen with
  | mk id children =>
      exact Screen.contents_toJsx_of_children identifies plain
        (Block.contentsOf_listToJsx identifies children place 0)

theorem Screen.contentsOf_listToJsx (identifies : name ∈ identifying) {names : StateNames}
    {workflow : Nat} (screens : List Screen) (place : Place) (index : Nat) :
    Node.contentsOf name (Screen.listToJsx names workflow screens) =
      (anchorsAmong (Screen.walkOf place index screens)).map Anchor.id := by
  cases screens with
  | nil => rfl
  | cons screen screens =>
      have inside : (screen.toJsx (some names.setter) workflow []).contents name = _ :=
        Screen.contents_toJsx identifies rfl screen (index :: place)
      cases screen with
      | mk id children =>
          rw [Screen.listToJsx, Jsx.Node.contentsOf_cons, Jsx.Node.contents, inside,
            Screen.contentsOf_listToJsx identifies screens place (index + 1), Screen.walkOf,
            anchorsAmong_append, List.map_append]

end

theorem Anchor.index_slugged (anchor : Anchor) : anchor.slugged.index = anchor.index := by
  cases anchor <;> rfl

theorem Control.indices_anchors_sublist (control : Control) (index : Nat) :
    ((control.anchors index).map Anchor.index).Sublist [index] := by
  cases control with
  | button => exact List.nil_sublist _
  | input | textarea | dropdown | checkbox => exact List.Sublist.refl _

/-- The anchors of neighbouring controls, the first of which stands at the given position. -/
def Control.anchorsOf (index : Nat) (controls : List Control) : List Anchor :=
  (controls.mapIdx fun i control => control.anchors (index + i)).flatten

theorem Control.anchorsOf_cons (index : Nat) (control : Control) (controls : List Control) :
    Control.anchorsOf index (control :: controls) =
      control.anchors index ++ Control.anchorsOf (index + 1) controls := by
  simp [Control.anchorsOf, Nat.add_assoc, Nat.add_comm 1]

/-- Neighbouring controls have different positions. -/
theorem Control.indices_anchorsOf_sublist (controls : List Control) (index : Nat) :
    ((Control.anchorsOf index controls).map Anchor.index).Sublist
      (List.range' index controls.length) := by
  induction controls generalizing index with
  | nil => exact List.Sublist.slnil
  | cons control controls ih =>
      rw [Control.anchorsOf_cons, List.map_append, List.length_cons, List.range'_succ,
        ← List.singleton_append]
      exact (control.indices_anchors_sublist index).append (ih (index + 1))

theorem Control.nodup_ids_anchorsOf (controls : List Control) (index : Nat) :
    ((Control.anchorsOf index controls).map Anchor.id).Nodup := by
  have positions : ((Control.anchorsOf index controls).map Anchor.index).Nodup :=
    (Control.indices_anchorsOf_sublist controls index).nodup List.nodup_range'
  have same : ((Control.anchorsOf index controls).map Anchor.slugged).map Anchor.index =
      (Control.anchorsOf index controls).map Anchor.index := by
    rw [List.map_map]
    exact List.map_congr_left fun anchor _ => anchor.index_slugged
  rw [← same] at positions
  exact Anchor.nodup_ids_iff.2 (List.Nodup.of_map _ positions)

theorem anchorsAmong_walkOf_controls (controls : List Control) (place : Place) (index : Nat) :
    anchorsAmong (Block.walkOf place index (controls.map fun control => .item (.control control))) =
      Control.anchorsOf index controls := by
  induction controls generalizing index with
  | nil => rfl
  | cons control controls ih =>
      rw [List.map_cons, Block.walkOf, anchorsAmong_append, ih, Control.anchorsOf_cons]
      simp [Block.walk, Block.anchors, Item.anchors]

namespace Component

/-- The text of a component has the identifiers of the anchors of its document. -/
theorem contentsInText_markup_anchors {name : String} (identifies : name ∈ identifying)
    (blocks : List Block) :
    Jsx.contentsInText name (markup blocks) = (anchors blocks).map Anchor.id := by
  rw [contentsInText_markup]
  exact Block.contentsOf_listToJsx identifies blocks [] 0

/-- The identifiers in the text of a component are those of the fields and the options of its
document, in document order, and its labels refer to them in the same order. They are different, and
each label refers to one element only, exactly if no two fields have the same kind, the same
position among their neighbours, and labels with the same slug; for options, the number in the group
counts, too. So controls in one list have different identifiers, and those in one row. -/
theorem ofBlocks_ids (blocks : List Block) :
    let ids := fun blocks => Jsx.contentsInText "id" (markup blocks)
    let labels := Jsx.contentsInText "htmlFor" (markup blocks)
    let different := ((anchors blocks).map Anchor.slugged).Nodup
    (∃ front, ofBlocks blocks = front ++ opening ++ markup blocks ++ closing) ∧
      ids blocks = (anchors blocks).map Anchor.id ∧ labels = ids blocks ∧
      ((ids blocks).Nodup ↔ different) ∧
      ((∀ label ∈ labels, (ids blocks).count label = 1) ↔ different) ∧
      ∀ controls : List Control,
        (ids (controls.map fun control => .item (.control control))).Nodup ∧
          (ids [.item (.row controls)]).Nodup := by
  intro ids labels different
  have fields : ∀ blocks, ids blocks = (anchors blocks).map Anchor.id :=
    contentsInText_markup_anchors (by decide)
  have referring : labels = ids blocks := by
    rw [fields]
    exact contentsInText_markup_anchors (by decide) blocks
  have decided : (ids blocks).Nodup ↔ different := by
    rw [fields]
    exact Anchor.nodup_ids_iff
  refine ⟨printModule_moduleLines _ _ _, fields blocks, referring, decided, ?_,
    fun controls => ⟨?_, ?_⟩⟩
  · rw [referring, ← decided]
    exact List.nodup_iff_count_eq_one.symm
  · rw [fields, anchors, anchorsAmong_walkOf_controls]
    exact Control.nodup_ids_anchorsOf controls 0
  · have row : anchors [.item (.row controls)] = Control.anchorsOf 0 controls := by
      simp [anchors, Block.walkOf, Block.walk, Block.anchors, Item.anchors, Control.anchorsOf]
    rw [fields, row]
    exact Control.nodup_ids_anchorsOf controls 0

/-- The first fields of two cards share their identifier if their labels do. -/
theorem ofBlocks_ids_two_cards :
    ¬∀ blocks : List Block, (Jsx.contentsInText "id" (markup blocks)).Nodup := by
  intro unique
  let name : Block := .item (.control (.input "Name".toList .text))
  let cards : List Block := [.box (.card none) [name], .box (.card none) [name]]
  have shared : Jsx.contentsInText "id" (markup cards) =
      ["input-name-0".toList, "input-name-0".toList] := by
    rw [contentsInText_markup_anchors (by decide)]
    rfl
  have nodup := unique cards
  rw [shared] at nodup
  exact absurd nodup (by decide)

end Component

end Mockup
