import Mockup.Jsx.Component

/-!
# The states that a component declares

A component declares one state for each workflow of its document. Its markup shows screens by the
values of states and sets states on clicks; every state that it names is one of those declared.
Workflows are counted while the markup is built, so the proof carries how many of them came before.
-/

namespace Mockup

namespace Jsx

/-- The attribute names no state that is not declared. -/
def Attribute.Declared (names : List StateNames) : Attribute → Prop
  | .key _ | .text .. => True
  | .onClick setter _ => ∃ state ∈ names, state.setter = setter

mutual

/-- The phrase names no state that is not declared. -/
def Phrase.Declared (names : List StateNames) : Phrase → Prop
  | .text _ => True
  | .element _ attributes children =>
      (∀ entry ∈ attributes, entry.Declared names) ∧ Phrase.AllDeclared names children
  | .void _ attributes => ∀ entry ∈ attributes, entry.Declared names

def Phrase.AllDeclared (names : List StateNames) : List Phrase → Prop
  | [] => True
  | phrase :: phrases => phrase.Declared names ∧ Phrase.AllDeclared names phrases

end

mutual

/-- The markup names no state that is not declared. -/
def Node.Declared (names : List StateNames) : Node → Prop
  | .line phrase => phrase.Declared names
  | .element _ attributes children =>
      (∀ entry ∈ attributes, entry.Declared names) ∧ Node.AllDeclared names children
  | .guard state _ body => (∃ declared ∈ names, declared.value = state) ∧ body.Declared names

def Node.AllDeclared (names : List StateNames) : List Node → Prop
  | [] => True
  | node :: nodes => node.Declared names ∧ Node.AllDeclared names nodes

end

variable {names : List StateNames} {tag : String} {attributes : List Attribute}

@[simp] theorem Attribute.declared_key (index : Nat) : (Attribute.key index).Declared names :=
  trivial

@[simp] theorem declared_property (name : String) (content : Text) :
    (property name content).Declared names :=
  trivial

@[simp] theorem declared_classes (content : Text) : (classes content).Declared names :=
  trivial

@[simp] theorem Phrase.declared_text (content : Text) : (Phrase.text content).Declared names :=
  trivial

@[simp] theorem Phrase.allDeclared_nil : Phrase.AllDeclared names [] :=
  trivial

@[simp] theorem Phrase.allDeclared_cons {phrase : Phrase} {phrases : List Phrase} :
    Phrase.AllDeclared names (phrase :: phrases) ↔
      phrase.Declared names ∧ Phrase.AllDeclared names phrases :=
  Iff.rfl

@[simp] theorem Node.allDeclared_nil : Node.AllDeclared names [] :=
  trivial

@[simp] theorem Node.allDeclared_cons {node : Node} {nodes : List Node} :
    Node.AllDeclared names (node :: nodes) ↔
      node.Declared names ∧ Node.AllDeclared names nodes :=
  Iff.rfl

/-- Phrases that are made for each of a list of values. -/
@[simp] theorem Phrase.allDeclared_mapIdx {α : Type} {make : Nat → α → Phrase} {values : List α}
    (declared : ∀ index value, (make index value).Declared names) :
    Phrase.AllDeclared names (values.mapIdx make) := by
  induction values generalizing make with
  | nil => simp
  | cons value values ih =>
      rw [List.mapIdx_cons]
      exact ⟨declared 0 value, ih fun index => declared (index + 1)⟩

/-- Markup that is made for each of a list of values. -/
@[simp] theorem Node.allDeclared_mapIdx {α : Type} {make : Nat → α → Node} {values : List α}
    (declared : ∀ index value, (make index value).Declared names) :
    Node.AllDeclared names (values.mapIdx make) := by
  induction values generalizing make with
  | nil => simp
  | cons value values ih =>
      rw [List.mapIdx_cons]
      exact ⟨declared 0 value, ih fun index => declared (index + 1)⟩

@[simp] theorem declared_wrap {children : List Node} :
    (wrap tag attributes children).Declared names ↔
      (∀ entry ∈ attributes, entry.Declared names) ∧ Node.AllDeclared names children :=
  Iff.rfl

@[simp] theorem declared_compact {children : List Phrase} :
    (compact tag attributes children).Declared names ↔
      (∀ entry ∈ attributes, entry.Declared names) ∧ Phrase.AllDeclared names children :=
  Iff.rfl

@[simp] theorem declared_single :
    (single tag attributes).Declared names ↔ ∀ entry ∈ attributes, entry.Declared names :=
  Iff.rfl

@[simp] theorem declared_fieldLabel (id label : Text) : (fieldLabel id label).Declared names := by
  simp [fieldLabel]

@[simp] theorem declared_field {index : Nat} {children : List Node} :
    (field index children).Declared names ↔ Node.AllDeclared names children := by
  simp [field]

end Jsx

open Jsx (Attribute Phrase Node)

variable {names : List StateNames} {setter : Option Text} {index : Nat}

@[simp] theorem Inline.declared_emphasizedPhrase (content : Text) :
    (Inline.emphasizedPhrase content index).Declared names := by
  simp [Inline.emphasizedPhrase, Phrase.Declared]

theorem Inline.declared_toPhrase (node : Inline) : (node.toPhrase index).Declared names := by
  cases node with
  | text content => trivial
  | italic content => exact declared_emphasizedPhrase content
  | bold content italics =>
      cases italics with
      | none => simp [Inline.toPhrase, Phrase.Declared]
      | some contents => cases contents <;> simp [Inline.toPhrase, Phrase.Declared]

@[simp] theorem Inline.allDeclared_toPhrases (nodes : List Inline) :
    Phrase.AllDeclared names (Inline.toPhrases nodes) :=
  Phrase.allDeclared_mapIdx fun _ node => declared_toPhrase node

/-- The state that buttons set, if there is one, is declared. -/
def InScope (names : List StateNames) (setter : Option Text) : Prop :=
  ∀ name ∈ setter, ∃ state ∈ names, state.setter = name

theorem Button.declared_toJsx (inScope : InScope names setter) (button : Button) :
    (button.toJsx setter index).Declared names := by
  unfold Button.toJsx
  rw [Jsx.declared_compact]
  refine ⟨?_, by simp⟩
  intro entry member
  simp only [List.mem_cons, List.mem_append, List.cons_append] at member
  rcases member with rfl | rfl | styled | clicked
  · trivial
  · trivial
  · split at styled
    · cases styled
    · cases styled
    · rw [List.mem_singleton.1 styled]
      trivial
  · split at clicked
    · rw [List.mem_singleton.1 clicked]
      exact inScope _ rfl
    · cases clicked

theorem Control.declared_toJsx (inScope : InScope names setter) (control : Control) :
    (control.toJsx setter index).Declared names := by
  cases control with
  | button inner => exact inner.declared_toJsx inScope
  | dropdown label options => simp [Control.toJsx, Jsx.select]
  | input | textarea => simp [Control.toJsx]
  | checkbox label => simp [Control.toJsx, Node.Declared]

@[simp] theorem Jsx.declared_radioOption (group option : Text) :
    (Jsx.radioOption group index option).Declared names := by
  simp [Jsx.radioOption]

theorem Item.declared_toJsx (inScope : InScope names setter) (item : Item) :
    (item.toJsx setter index).Declared names := by
  cases item with
  | header level children => simp [Item.toJsx, Node.Declared, Phrase.Declared]
  | text children => simp [Item.toJsx]
  | control inner => exact inner.declared_toJsx inScope
  | radioGroup label first more => simp [Item.toJsx]
  | image alt src => simp [Item.toJsx]
  | row controls =>
      rw [Item.toJsx, Jsx.declared_wrap]
      exact ⟨by simp, Node.allDeclared_mapIdx fun _ control => control.declared_toJsx inScope⟩

theorem Table.declared_toJsx (table : Table) : (table.toJsx index).Declared names := by
  simp [Table.toJsx]

/-! ## Blocks -/

theorem Box.declared_toJsx {contents : List Node} (declared : Node.AllDeclared names contents)
    (box : Box) : (box.toJsx index contents).Declared names := by
  cases box with
  | card title =>
      cases title with
      | none => simp [Box.toJsx, declared]
      | some nodes => cases nodes <;> simp [Box.toJsx, declared]
  | grid | div => simp [Box.toJsx, declared]

/-- The states of `count` workflows, of which `workflow` ones come before, are declared. -/
def Counted (names : List StateNames) (workflow count : Nat) : Prop :=
  ∀ offset < count, StateNames.ofIndex (workflow + offset) ∈ names

theorem Counted.left {workflow front rest : Nat} (counted : Counted names workflow (front + rest)) :
    Counted names workflow front :=
  fun offset bound => counted offset (by omega)

theorem Counted.right {workflow front rest : Nat}
    (counted : Counted names workflow (front + rest)) : Counted names (workflow + front) rest := by
  intro offset bound
  rw [Nat.add_assoc]
  exact counted (front + offset) (by omega)

mutual

/-- A block names the state around it and those of its own workflows. -/
theorem Block.declared_toJsx {setter : Option Text} {workflow index : Nat}
    (inScope : InScope names setter) (block : Block)
    (counted : Counted names workflow block.initialScreens.length) :
    (block.toJsx setter workflow index).Declared names := by
  cases block with
  | item inner => exact inner.declared_toJsx inScope
  | table inner => exact inner.declared_toJsx
  | box outer children =>
      exact outer.declared_toJsx (Block.declared_listToJsx inScope children counted)
  | screen inner => exact inner.declared_toJsx inScope (by simp) counted
  | workflow initial screens =>
      have own : StateNames.ofIndex workflow ∈ names := counted 0 (Nat.succ_pos _)
      have inside : Counted names (workflow + 1) (Screen.initialScreensOf screens).length := by
        rw [Block.initialScreens, List.length_cons, Nat.add_comm] at counted
        exact counted.right
      rw [Block.toJsx, Jsx.declared_wrap]
      exact ⟨by simp, Screen.declared_listToJsx own screens inside⟩

theorem Block.declared_listToJsx {setter : Option Text} {workflow index : Nat}
    (inScope : InScope names setter) (blocks : List Block)
    (counted : Counted names workflow (Block.initialScreensOf blocks).length) :
    Node.AllDeclared names (Block.listToJsx setter workflow index blocks) := by
  cases blocks with
  | nil => trivial
  | cons block blocks =>
      rw [Block.initialScreensOf, List.length_append] at counted
      exact ⟨block.declared_toJsx inScope counted.left,
        Block.declared_listToJsx inScope blocks counted.right⟩

theorem Screen.declared_toJsx {setter : Option Text} {workflow : Nat}
    {attributes : List Attribute} (inScope : InScope names setter) (screen : Screen)
    (plain : ∀ entry ∈ attributes, entry.Declared names)
    (counted : Counted names workflow screen.initialScreens.length) :
    (screen.toJsx setter workflow attributes).Declared names := by
  cases screen with
  | mk id children =>
      rw [Screen.toJsx, Jsx.declared_wrap]
      refine ⟨?_, Block.declared_listToJsx inScope children counted⟩
      exact List.forall_mem_append.2 ⟨plain, by simp⟩

theorem Screen.declared_listToJsx {own : StateNames} {workflow : Nat} (declared : own ∈ names)
    (screens : List Screen)
    (counted : Counted names workflow (Screen.initialScreensOf screens).length) :
    Node.AllDeclared names (Screen.listToJsx own workflow screens) := by
  have inScope : InScope names (some own.setter) := by
    intro name found
    cases found
    exact ⟨own, declared, rfl⟩
  cases screens with
  | nil => trivial
  | cons screen screens =>
      rw [Screen.initialScreensOf, List.length_append] at counted
      cases screen with
      | mk id children =>
          refine ⟨⟨⟨own, declared, rfl⟩, ?_⟩,
            Screen.declared_listToJsx declared screens counted.right⟩
          exact Screen.declared_toJsx inScope ⟨id, children⟩ (by simp) counted.left

end

namespace Component

/-- The states that a component declares: one for each workflow. -/
def states (blocks : List Block) : List StateNames :=
  (List.range (Block.initialScreensOf blocks).length).map StateNames.ofIndex

/-- The markup of a component names no state that the component does not declare. -/
theorem allDeclared_body (blocks : List Block) :
    Node.AllDeclared (states blocks) (body blocks) := by
  have counted : Counted (states blocks) 0 (Block.initialScreensOf blocks).length := by
    intro offset bound
    rw [Nat.zero_add]
    exact List.mem_map_of_mem (List.mem_range.2 bound)
  unfold body
  refine Block.declared_listToJsx ?_ blocks counted
  intro name found
  split at found
  · cases found
  · rename_i first more initials
    cases found
    refine ⟨_, counted 0 ?_, rfl⟩
    rw [initials]
    exact Nat.succ_pos _

end Component

end Mockup
