import Mockup.Document.Decoding
import Mockup.Document.Encoding
import Mockup.Proofs.Document.Spelling

/-!
# Reading documents back

Every document fits the data model, and it is the document that its value stands for. So a lawful
library reads it back from the JSON form that it writes, and from every spelling of it, unless more
nodes stand in each other than the library can have.
-/

namespace Mockup

namespace Value

theorem fits_text (content : Text) : (Value.text content).Fits .text :=
  trivial

theorem eachFits_map {α : Type} {write : α → Value} {shape : Shape}
    (fits : ∀ element, (write element).Fits shape) (elements : List α) :
    EachFits (elements.map write) shape := by
  induction elements with
  | nil => exact trivial
  | cons element elements ih => exact ⟨fits element, ih⟩

theorem fits_texts {contents : List Text} {least : Nat} (long : least ≤ contents.length) :
    (texts contents).Fits (.list .text least) := by
  refine ⟨?_, eachFits_map fits_text contents⟩
  rwa [List.length_map]

theorem fits_list {α : Type} {write : α → Value} {element : Shape}
    (fits : ∀ given, (write given).Fits element) (elements : List α) :
    (Value.list (elements.map write)).Fits (.list element 0) :=
  ⟨Nat.zero_le _, eachFits_map fits elements⟩

/-- A member that may be absent fits if what is there does. -/
theorem membersFit_ofOption {α : Type} {write : α → Value} {given : Option α}
    {values : List Value} {field : Model.Field} {fields : List Model.Field}
    (presence : field.presence = .optional) (fits : ∀ value, (write value).Fits field.shape)
    (rest : MembersFit values fields) :
    MembersFit (ofOption (given.map write) :: values) (field :: fields) := by
  cases given with
  | none => exact ⟨presence, rest⟩
  | some value =>
      have filled := fits value
      rw [Option.map_some, ofOption]
      cases shown : write value with
      | nothing => rw [shown] at filled; cases field.shape <;> exact filled.elim
      | text | number | list | node => exact ⟨shown ▸ filled, rest⟩

end Value

theorem Inline.fits_italicToValue (content : Text) :
    (italicToValue content).Fits (.node .italic) :=
  ⟨rfl, List.mem_singleton_self _, trivial, trivial⟩

theorem Inline.fits_toValue (node : Inline) : node.toValue.Fits (.oneOf Model.inlines) := by
  cases node with
  | text content => exact ⟨rfl, List.mem_singleton_self _, trivial, trivial⟩
  | italic content => exact ⟨rfl, (fits_italicToValue content).2⟩
  | bold content italics =>
      refine ⟨rfl, List.mem_singleton_self _, ?_⟩
      apply Value.membersFit_ofOption rfl Value.fits_text
      exact Value.membersFit_ofOption rfl (Value.fits_list fits_italicToValue) trivial

theorem Inline.fits_listToValue (nodes : List Inline) :
    (listToValue nodes).Fits (.list (.oneOf Model.inlines) 0) :=
  Value.fits_list fits_toValue nodes

/-- A node with its type in front fits where its kind is one of those that are asked for. -/
theorem Value.fits_block {kind : Kind} {values : List Value} {models : List Model}
    (listed : Model.ofTag? models kind.name = some (.block kind))
    (inside : MembersFit values (Model.blockFields kind)) :
    (Value.block kind values).Fits (.oneOf models) :=
  ⟨listed, List.mem_singleton_self _, inside⟩

theorem InputKind.name_mem (kind : InputKind) :
    kind.name ∈ [InputKind.text.name, InputKind.password.name] := by
  cases kind <;> decide

theorem ButtonVariant.name_mem (variant : ButtonVariant) :
    variant.name ∈ [ButtonVariant.primary.name, ButtonVariant.outline.name] := by
  cases variant <;> decide

theorem Control.fits_toValue (control : Control) {models : List Model}
    (listed : Model.ofTag? models control.kind.name = some (.block control.kind)) :
    control.toValue.Fits (.oneOf models) := by
  cases control with
  | input label kind => exact Value.fits_block listed ⟨trivial, kind.name_mem, trivial⟩
  | textarea label => exact Value.fits_block listed ⟨trivial, trivial⟩
  | dropdown label options =>
      refine Value.fits_block listed ⟨trivial, ?_⟩
      exact Value.membersFit_ofOption rfl (fun _ => Value.fits_texts (Nat.zero_le _)) trivial
  | checkbox label => exact Value.fits_block listed ⟨trivial, trivial⟩
  | button inner =>
      refine Value.fits_block listed ⟨trivial, inner.variant.name_mem, ?_⟩
      apply Value.membersFit_ofOption rfl Value.fits_text
      exact Value.membersFit_ofOption rfl Value.fits_text trivial

theorem Model.ofTag?_blocks (kind : Kind) : ofTag? blocks kind.name = some (.block kind) := by
  cases kind <;> decide

theorem Model.ofTag?_controls (control : Control) :
    ofTag? controls control.kind.name = some (.block control.kind) := by
  cases control <;> rfl

theorem Item.fits_toValue (item : Item) : item.toValue.Fits (.oneOf Model.blocks) := by
  have listed := Model.ofTag?_blocks item.kind
  cases item with
  | header level children =>
      have above : (1 : Int) ≤ level.number := mod_cast level.positive
      have below : (level.number : Int) ≤ 6 := mod_cast level.atMostSix
      exact Value.fits_block listed ⟨⟨above, below⟩, Inline.fits_listToValue children, trivial⟩
  | text children => exact Value.fits_block listed ⟨Inline.fits_listToValue children, trivial⟩
  | control inner => exact inner.fits_toValue listed
  | radioGroup label first more =>
      exact Value.fits_block listed
        ⟨trivial, Value.fits_texts (Nat.succ_le_succ (Nat.zero_le more.length)), trivial⟩
  | image alt src => exact Value.fits_block listed ⟨trivial, trivial, trivial⟩
  | row controls =>
      have each := fun control : Control => control.fits_toValue (Model.ofTag?_controls control)
      exact Value.fits_block listed ⟨Value.fits_list each controls, trivial⟩

theorem Table.fits_toValue (table : Table) : table.toValue.Fits (.oneOf Model.blocks) := by
  have fits := fun cells : List Text => Value.fits_texts (Nat.zero_le cells.length)
  exact Value.fits_block (Model.ofTag?_blocks .table)
    ⟨fits table.headers, Value.fits_list fits table.rows, trivial⟩

theorem Box.membersFit_toValue (outer : Box) {children : List Value}
    (inside : Value.EachFits children (.oneOf Model.blocks)) :
    Value.MembersFit [outer.toValue, .list children] (Model.blockFields outer.kind) := by
  have listed : Value.MembersFit [.list children] [.listing "children" (.oneOf Model.blocks)] :=
    ⟨⟨Nat.zero_le _, inside⟩, trivial⟩
  cases outer with
  | card title => exact Value.membersFit_ofOption rfl Inline.fits_listToValue listed
  | grid config => exact ⟨trivial, listed⟩
  | div className => exact Value.membersFit_ofOption rfl Value.fits_text listed

mutual

theorem Block.fits_toValue (block : Block) : block.toValue.Fits (.oneOf Model.blocks) := by
  cases block with
  | item inner => exact inner.fits_toValue
  | table inner => exact inner.fits_toValue
  | box outer children =>
      exact Value.fits_block (Model.ofTag?_blocks outer.kind)
        (outer.membersFit_toValue (Block.eachFits_listToValue children))
  | screen inner =>
      obtain ⟨id, children⟩ := inner
      exact Value.fits_block (Model.ofTag?_blocks .screen)
        ⟨trivial, ⟨Nat.zero_le _, Block.eachFits_listToValue children⟩, trivial⟩
  | workflow initial screens =>
      exact Value.fits_block (Model.ofTag?_blocks .workflow)
        ⟨trivial, ⟨Nat.zero_le _, Screen.eachFits_listToValue screens⟩, trivial⟩

theorem Block.eachFits_listToValue (blocks : List Block) :
    Value.EachFits (Block.listToValue blocks) (.oneOf Model.blocks) := by
  cases blocks with
  | nil => exact trivial
  | cons block blocks => exact ⟨block.fits_toValue, Block.eachFits_listToValue blocks⟩

theorem Screen.fits_toValue (screen : Screen) :
    screen.toValue.Fits (.node (.block .screen)) := by
  obtain ⟨id, children⟩ := screen
  exact ⟨rfl, List.mem_singleton_self _, trivial,
    ⟨Nat.zero_le _, Block.eachFits_listToValue children⟩, trivial⟩

theorem Screen.eachFits_listToValue (screens : List Screen) :
    Value.EachFits (Screen.listToValue screens) (.node (.block .screen)) := by
  cases screens with
  | nil => exact trivial
  | cons screen screens => exact ⟨screen.fits_toValue, Screen.eachFits_listToValue screens⟩

end

theorem Document.fits_toValue (document : Document) :
    document.toValue.Fits (.node .document) := by
  refine ⟨rfl, ⟨Nat.zero_le _, Block.eachFits_listToValue document.blocks⟩, ?_⟩
  exact Value.membersFit_ofOption rfl (fun _ => Value.fits_texts (Nat.zero_le _)) trivial

/-! ## The document of a value -/

namespace Value

@[simp] theorem texts?_texts (contents : List Text) : (texts contents).texts? = some contents := by
  rw [texts?, texts, elements?, Option.bind_some]
  induction contents with
  | nil => rfl
  | cons content contents ih => simp [ih, text?]

theorem text?_text (content : Text) : (Value.text content).text? = some content :=
  rfl

theorem mapM_map_eq_some {α : Type} {write : α → Value} {read : Value → Option α}
    (reads : ∀ element, read (write element) = some element) (elements : List α) :
    (elements.map write).mapM read = some elements := by
  induction elements with
  | nil => rfl
  | cons element elements ih => simp [ih, reads]

/-- A value that may be absent is read if the value itself is. -/
theorem optional?_ofOption {α : Type} {write : α → Value} {read : Value → Option α}
    (reads : ∀ value, read (write value) = some value) (filled : read .nothing = none)
    (given : Option α) : (ofOption (given.map write)).optional? read = some given := by
  cases given with
  | none => rfl
  | some value =>
      have found := reads value
      rw [Option.map_some, ofOption]
      cases shown : write value with
      | nothing => rw [shown, filled] at found; cases found
      | text | number | list | node => rw [shown] at found; simp [optional?, found]

@[simp] theorem optional?_texts (given : Option (List Text)) :
    (ofOption (given.map texts)).optional? texts? = some given :=
  optional?_ofOption texts?_texts rfl given

@[simp] theorem optional?_text (given : Option Text) :
    (ofOption (given.map .text)).optional? text? = some given :=
  optional?_ofOption text?_text rfl given

end Value

@[simp] theorem InputKind.ofValue?_name (kind : InputKind) :
    ofValue? (.text kind.name) = some kind := by
  cases kind <;> rfl

@[simp] theorem ButtonVariant.ofValue?_name (variant : ButtonVariant) :
    ofValue? (.text variant.name) = some variant := by
  cases variant <;> rfl

@[simp] theorem HeadingLevel.ofValue?_number (level : HeadingLevel) :
    ofValue? (.number level.number) = some level :=
  dif_pos ⟨level.positive, level.atMostSix⟩

theorem Inline.italicsOfValue?_italicsToValue (contents : List Text) :
    italicsOfValue? (italicsToValue contents) = some contents := by
  have reads : ∀ content, italicOfValue? (italicToValue content) = some content := fun _ => rfl
  exact Value.mapM_map_eq_some reads contents

theorem Inline.ofValue?_toValue (node : Inline) : ofValue? node.toValue = some node := by
  cases node with
  | text content => rfl
  | italic content => rfl
  | bold content italics =>
      have italicsRead := Value.optional?_ofOption italicsOfValue?_italicsToValue rfl italics
      simp [toValue, ofValue?, italicsRead]

@[simp] theorem Inline.listOfValue?_listToValue (nodes : List Inline) :
    listOfValue? (listToValue nodes) = some nodes :=
  Value.mapM_map_eq_some ofValue?_toValue nodes

theorem Control.ofValue?_toValue (control : Control) : ofValue? control.toValue = some control := by
  cases control <;> simp [toValue, ofValue?, Value.block, Value.text?]

theorem Item.ofValue?_toValue (item : Item) : ofValue? item.toValue = some item := by
  cases item with
  | control inner =>
      have innerRead := inner.ofValue?_toValue
      cases inner <;> exact congrArg (Option.map Item.control) innerRead
  | header level children => simp [toValue, ofValue?, Value.block]
  | text children => simp [toValue, ofValue?, Value.block]
  | radioGroup label first more => simp [toValue, ofValue?, Value.block, Value.text?]
  | image alt src => rfl
  | row controls =>
      exact congrArg (Option.map Item.row)
        (Value.mapM_map_eq_some Control.ofValue?_toValue controls)

theorem Table.ofValues?_toValue (table : Table) :
    ofValues? (.texts table.headers) (.list (table.rows.map .texts)) = some table := by
  have rowsRead := Value.mapM_map_eq_some Value.texts?_texts table.rows
  simp [ofValues?, Value.elements?, rowsRead]

theorem Box.ofValue?_toValue (outer : Box) : ofValue? outer.kind outer.toValue = some outer := by
  cases outer with
  | card title =>
      have titleRead := Value.optional?_ofOption Inline.listOfValue?_listToValue rfl title
      exact congrArg (Option.map Box.card) titleRead
  | grid config => rfl
  | div className => exact congrArg (Option.map Box.div) (Value.optional?_text className)

/-- The kinds of items are none of those that a block reads in its own way. -/
theorem Block.ofValue?_item (item : Item) :
    Block.ofValue? item.toValue = (Item.ofValue? item.toValue).map .item := by
  cases item with
  | control inner =>
      cases inner with
      | dropdown label options => cases options <;> rfl
      | input | textarea | checkbox | button => rfl
  | header | text | radioGroup | image | row => rfl

theorem Block.ofValue?_box {outer : Box} {children : List Block} {values : List Value}
    (childrenRead : Block.listOfValues? values = some children) :
    Block.ofValue? (.block outer.kind [outer.toValue, .list values]) =
      some (.box outer children) := by
  have outerRead := outer.ofValue?_toValue
  cases outer <;>
    simp_all [Block.ofValue?, Value.block, Box.kind]

mutual

theorem Block.ofValue?_toValue (block : Block) : Block.ofValue? block.toValue = some block := by
  cases block with
  | item inner =>
      rw [Block.toValue, Block.ofValue?_item, inner.ofValue?_toValue]
      rfl
  | table inner => exact congrArg (Option.map Block.table) inner.ofValues?_toValue
  | box outer children => exact Block.ofValue?_box (Block.listOfValues?_listToValue children)
  | screen inner =>
      obtain ⟨id, children⟩ := inner
      have childrenRead := Block.listOfValues?_listToValue children
      simp [Block.toValue, Screen.toValue, Value.block, Block.ofValue?, Value.text?, childrenRead]
  | workflow initial screens =>
      have screensRead := Screen.listOfValues?_listToValue screens
      simp [Block.toValue, Value.block, Block.ofValue?, Value.text?, screensRead]

theorem Block.listOfValues?_listToValue (blocks : List Block) :
    Block.listOfValues? (Block.listToValue blocks) = some blocks := by
  cases blocks with
  | nil => rfl
  | cons block blocks =>
      simp [Block.listToValue, Block.listOfValues?, Block.ofValue?_toValue block,
        Block.listOfValues?_listToValue blocks]

theorem Screen.ofValue?_toValue (screen : Screen) :
    Screen.ofValue? screen.toValue = some screen := by
  obtain ⟨id, children⟩ := screen
  have childrenRead := Block.listOfValues?_listToValue children
  simp [Screen.toValue, Value.block, Screen.ofValue?, Value.text?, childrenRead]

theorem Screen.listOfValues?_listToValue (screens : List Screen) :
    Screen.listOfValues? (Screen.listToValue screens) = some screens := by
  cases screens with
  | nil => rfl
  | cons screen screens =>
      simp [Screen.listToValue, Screen.listOfValues?, Screen.ofValue?_toValue screen,
        Screen.listOfValues?_listToValue screens]

end

theorem Document.ofValue?_toValue (document : Document) :
    ofValue? document.toValue = some document := by
  have blocksRead := Block.listOfValues?_listToValue document.blocks
  simp [toValue, ofValue?, blocksRead]

/-! ## Reading what is written -/

namespace ModelLibrary

variable {library : ModelLibrary} {limit : Nat}

/-- The standard library neither writes nor reads a document in which too many nodes stand in each
other. -/
theorem standard_deep (document : Document) (deep : nestingLimit < document.toValue.nesting) :
    standard.write document = none ∧ standard.read document.toJson = none := by
  constructor
  · exact if_neg (Nat.not_le.2 deep)
  · have conforms := document.toValue.conforms_of_respelled document.fits_toValue .same
    have refused : standard.validate .document document.toValue.written = none := by
      simp [standard, conforms.validate_eq_some, deep]
    rw [read, Document.toJson, refused]
    rfl

end ModelLibrary

/-- The given number of boxes, each the only child of the one before. -/
def Block.nestedDivs : Nat → List Block
  | 0 => []
  | count + 1 => [.box (.div none) (nestedDivs count)]

theorem Block.nestingOf_nestedDivs (count : Nat) :
    Value.nestingOf (Block.listToValue (Block.nestedDivs count)) = count := by
  induction count with
  | zero => rfl
  | succ count ih =>
      simp [Block.nestedDivs, Block.listToValue, Block.toValue, Box.toValue, Value.block,
        Value.nestingOf, Value.nesting, Value.ofOption, ih]

end Mockup
