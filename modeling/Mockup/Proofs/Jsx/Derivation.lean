import Mockup.Proofs.Jsx.Grammar
import Mockup.Proofs.WellFormed.Documents

/-!
# Components follow the grammar

The markup of a component is made of the listed tags and attributes. What is left to the document
are strings, which are escaped, and the names of screens, which stand in literals. A literal may not
hold the end of a line, and the names of a well-formed document hold no blanks at all.
-/

namespace Mockup

open Jsx (Attribute Phrase Node wrap compact single property IsIdentifier containers voids
  attributeNames lineTerminators)

/-- A name holds no end of a line, because those are blanks. -/
theorem Text.IsName.not_mem_lineTerminators {name : Text} (named : name.IsName) :
    ∀ character ∈ name, character ∉ lineTerminators := by
  have blank : ∀ character ∈ lineTerminators, isBlank character = true := List.all_eq_true.1 rfl
  intro character member ends
  have free := (named.2 character member).1
  rw [blank character ends] at free
  cases free

theorem Jsx.IsIdentifier.append {name more : Text} (named : IsIdentifier name)
    (alphanumeric : ∀ character ∈ more, character.isAlphanum = true) :
    IsIdentifier (name ++ more) := by
  cases name with
  | nil => cases named
  | cons first rest => exact ⟨named.1, List.forall_mem_append.2 ⟨named.2, alphanumeric⟩⟩

theorem StateNames.isIdentifier_ofIndex (index : Nat) :
    IsIdentifier (ofIndex index).value ∧ IsIdentifier (ofIndex index).setter := by
  have value : IsIdentifier "currentScreen".toList := ⟨rfl, List.all_eq_true.1 rfl⟩
  have setter : IsIdentifier "setCurrentScreen".toList := ⟨rfl, List.all_eq_true.1 rfl⟩
  have number : ∀ character ∈ if index = 0 then [] else Text.ofNat (index + 1),
      character.isAlphanum = true := by
    intro character member
    split at member
    · cases member
    · have digit := Nat.isDigit_of_mem_toDigits (by decide) (by decide) member
      simp [Char.isAlphanum, digit]
  exact ⟨value.append number, setter.append number⟩

namespace Jsx

variable {tag : String} {attributes : List Attribute}

/-- An attribute of the vocabulary that names no screen. -/
def Attribute.isPlain : Attribute → Bool
  | .key _ => true
  | .text name _ => attributeNames.any fun listed => listed.toList = name
  | .onClick .. => false

/-- A tag of the vocabulary with plain attributes. -/
def isListed (tags : List String) (tag : String) (attributes : List Attribute) : Bool :=
  tags.contains tag && attributes.all Attribute.isPlain

theorem isListed_of_mem {tags : List String} (known : tag ∈ tags)
    (plain : attributes.all Attribute.isPlain = true) : isListed tags tag attributes = true :=
  Bool.and_eq_true_iff.2 ⟨List.contains_iff_mem.2 known, plain⟩

theorem mem_of_isListed {tags : List String} (listed : isListed tags tag attributes = true) :
    tag ∈ tags ∧ ∀ property ∈ attributes, property.Printed := by
  obtain ⟨known, plain⟩ := Bool.and_eq_true_iff.1 listed
  refine ⟨List.contains_iff_mem.1 known, ?_⟩
  intro property member
  have spelled := List.all_eq_true.1 plain property member
  cases property with
  | key index => exact Attribute.printed_key index
  | onClick setter screen => cases spelled
  | text name content =>
      obtain ⟨word, found, same⟩ := List.any_eq_true.1 spelled
      rw [← of_decide_eq_true same]
      exact Attribute.printed_property found content

theorem forall_mem_pair {α : Type} {good : α → Prop} {first second : α} (front : good first)
    (rest : good second) : ∀ value ∈ [first, second], good value :=
  List.forall_mem_cons.2 ⟨front, List.forall_mem_singleton.2 rest⟩

theorem forall_mem_mapIdx {α β : Type} {make : Nat → α → β} {good : β → Prop} {values : List α}
    (each : ∀ index, ∀ value ∈ values, good (make index value)) :
    ∀ result ∈ values.mapIdx make, good result := by
  intro result member
  obtain ⟨index, bound, rfl⟩ := List.mem_mapIdx.1 member
  exact each index _ (List.getElem_mem bound)

theorem printed_wrap {children : List Node} (listed : isListed containers tag attributes = true)
    (contents : ∀ child ∈ children, child.Printed) : (wrap tag attributes children).Printed := by
  obtain ⟨known, given⟩ := mem_of_isListed listed
  exact Node.printed_wrap known given contents

theorem printed_phrase {children : List Phrase} (listed : isListed containers tag attributes = true)
    (contents : ∀ child ∈ children, child.Printed) :
    (Phrase.element tag.toList attributes children).Printed := by
  obtain ⟨known, given⟩ := mem_of_isListed listed
  exact Phrase.printed_element known given contents

theorem printed_compact {children : List Phrase}
    (listed : isListed containers tag attributes = true)
    (contents : ∀ child ∈ children, child.Printed) : (compact tag attributes children).Printed :=
  Node.printed_line (printed_phrase listed contents)

theorem printed_single (listed : isListed voids tag attributes = true) :
    (single tag attributes).Printed := by
  obtain ⟨known, given⟩ := mem_of_isListed listed
  exact Node.printed_line (Phrase.printed_void known given)

theorem only_text (content : Text) : ∀ child ∈ [Phrase.text content], child.Printed :=
  List.forall_mem_singleton.2 (Phrase.printed_text content)

theorem printed_fieldLabel (id label : Text) : (fieldLabel id label).Printed :=
  printed_compact rfl (only_text label)

theorem printed_field {index : Nat} {children : List Node}
    (contents : ∀ child ∈ children, child.Printed) : (field index children).Printed :=
  printed_wrap rfl contents

end Jsx

open Jsx (isListed isListed_of_mem printed_wrap printed_phrase printed_compact printed_single
  printed_fieldLabel printed_field only_text forall_mem_pair forall_mem_mapIdx)

variable {setter : Option Text} {index : Nat}

theorem Inline.printed_emphasizedPhrase (content : Text) :
    (Inline.emphasizedPhrase content index).Printed :=
  printed_phrase rfl (only_text content)

theorem Inline.printed_toPhrase (node : Inline) : (node.toPhrase index).Printed := by
  cases node with
  | text content => exact Phrase.printed_text content
  | italic content => exact printed_emphasizedPhrase content
  | bold content italics =>
      rcases italics with - | (- | ⟨first, more⟩)
      · exact printed_phrase rfl (only_text _)
      · exact printed_phrase rfl (only_text _)
      · exact printed_phrase rfl
          (forall_mem_mapIdx fun _ content _ => printed_emphasizedPhrase content)

theorem Inline.printed_toPhrases (nodes : List Inline) :
    ∀ phrase ∈ Inline.toPhrases nodes, phrase.Printed :=
  forall_mem_mapIdx fun _ node _ => printed_toPhrase node

/-- What buttons call, if there is something, is the name of a function. -/
def Callable (setter : Option Text) : Prop :=
  ∀ name ∈ setter, IsIdentifier name

theorem Button.printed_toJsx (callable : Callable setter) {button : Button}
    (named : ∀ target ∈ button.navigateTo, target.IsName) :
    (button.toJsx setter index).Printed := by
  unfold Button.toJsx
  refine Node.printed_line (Phrase.printed_element (by decide) ?_ (only_text _))
  intro entry member
  simp only [List.mem_cons, List.mem_append, List.cons_append] at member
  rcases member with rfl | rfl | styled | clicked
  · exact Attribute.printed_key index
  · exact Attribute.printed_property (by decide) _
  · split at styled
    · cases styled
    · cases styled
    · rw [List.mem_singleton.1 styled]
      exact Attribute.printed_property (by decide) _
  · split at clicked
    · rename_i first more target
      rw [List.mem_singleton.1 clicked]
      exact Attribute.printed_onClick (callable _ rfl) (named _ target).not_mem_lineTerminators
    · cases clicked

theorem Jsx.printed_select (id : Text) (options : List Text) : (Jsx.select id options).Printed := by
  have trigger : (wrap "SelectTrigger" [property "id" id]
      [single "SelectValue" [property "placeholder" "Select an option".toList]]).Printed :=
    printed_wrap rfl (List.forall_mem_singleton.2 (printed_single rfl))
  apply printed_wrap rfl
  refine forall_mem_pair trigger (printed_wrap rfl ?_)
  exact forall_mem_mapIdx fun _ option _ => printed_compact rfl (only_text option)

theorem Control.printed_toJsx (callable : Callable setter) {control : Control}
    (wellFormed : control.WellFormed) : (control.toJsx setter index).Printed := by
  cases control with
  | input label kind =>
      exact printed_field (forall_mem_pair (printed_fieldLabel _ label) (printed_single rfl))
  | textarea label =>
      exact printed_field (forall_mem_pair (printed_fieldLabel _ label) (printed_single rfl))
  | dropdown label options =>
      exact printed_field (forall_mem_pair (printed_fieldLabel _ label) (Jsx.printed_select _ _))
  | checkbox label =>
      apply printed_wrap rfl
      refine forall_mem_pair (printed_single rfl) (printed_wrap rfl ?_)
      exact List.forall_mem_singleton.2 (Node.printed_line (Phrase.printed_text label))
  | button inner => exact Button.printed_toJsx callable wellFormed

theorem Jsx.printed_radioOption (group option : Text) :
    (Jsx.radioOption group index option).Printed :=
  printed_wrap rfl (forall_mem_pair (printed_single rfl) (printed_fieldLabel _ option))

/-- There is a tag for each level of headings. -/
theorem HeadingLevel.listed : ∀ number ≤ 6, 1 ≤ number →
    ∃ tag ∈ containers, 'h' :: Text.ofNat number = tag.toList := by
  decide

theorem Item.printed_toJsx (callable : Callable setter) {item : Item}
    (wellFormed : item.WellFormed) : (item.toJsx setter index).Printed := by
  cases item with
  | header level children =>
      obtain ⟨tag, listed, spelled⟩ := HeadingLevel.listed _ level.atMostSix level.positive
      rw [Item.toJsx, spelled]
      exact printed_compact (isListed_of_mem listed rfl) (Inline.printed_toPhrases children)
  | text children => exact printed_compact rfl (Inline.printed_toPhrases children)
  | control inner => exact Control.printed_toJsx callable wellFormed
  | radioGroup label first more =>
      apply printed_field
      refine forall_mem_pair (printed_compact rfl (only_text label)) (printed_wrap rfl ?_)
      exact forall_mem_mapIdx fun _ option _ => Jsx.printed_radioOption _ option
  | image alt src => exact printed_single rfl
  | row controls =>
      apply printed_wrap rfl
      exact forall_mem_mapIdx fun _ control member =>
        Control.printed_toJsx callable (wellFormed.2.2 control member)

theorem Table.printed_toJsx (table : Table) : (table.toJsx index).Printed := by
  have cells : ∀ tag ∈ containers, ∀ texts : List Text,
      ∀ node ∈ texts.mapIdx fun i text => compact tag [.key i] [.text text], node.Printed :=
    fun _ listed _ => forall_mem_mapIdx fun _ text _ =>
      printed_compact (isListed_of_mem listed rfl) (only_text text)
  have heads : (wrap "TableRow" []
      (table.headers.mapIdx fun i text => compact "TableHead" [.key i] [.text text])).Printed :=
    printed_wrap rfl (cells _ (by decide) table.headers)
  apply printed_wrap rfl
  refine forall_mem_pair (printed_wrap rfl (List.forall_mem_singleton.2 heads))
    (printed_wrap rfl ?_)
  exact forall_mem_mapIdx fun _ row _ => printed_wrap rfl (cells _ (by decide) row)

/-! ## Blocks -/

theorem Box.printed_toJsx {contents : List Node} (printed : ∀ child ∈ contents, child.Printed)
    (box : Box) : (box.toJsx index contents).Printed := by
  cases box with
  | card title =>
      rcases title with - | (- | ⟨first, more⟩)
      · exact printed_wrap rfl (List.forall_mem_singleton.2 (printed_wrap rfl printed))
      · exact printed_wrap rfl (List.forall_mem_singleton.2 (printed_wrap rfl printed))
      · have title : (compact "CardTitle" [] (Inline.toPhrases (first :: more))).Printed :=
          printed_compact rfl (Inline.printed_toPhrases _)
        apply printed_wrap rfl
        exact forall_mem_pair (printed_wrap rfl (List.forall_mem_singleton.2 title))
          (printed_wrap rfl printed)
  | grid config => exact printed_wrap rfl printed
  | div className => exact printed_wrap rfl printed

mutual

/-- The only strings of a block that are not escaped are names. No screen is read from a text
outside of a workflow. -/
theorem Block.printed_toJsx {setter : Option Text} {workflow index : Nat}
    (callable : Callable setter) (block : Block) (wellFormed : block.WellFormed) :
    (block.toJsx setter workflow index).Printed := by
  cases block with
  | item inner => exact Item.printed_toJsx callable wellFormed
  | table inner => exact inner.printed_toJsx
  | box outer children =>
      exact outer.printed_toJsx (Block.printed_listToJsx callable children wellFormed.2)
  | screen inner =>
      cases wellFormed
  | workflow initial screens =>
      exact printed_wrap rfl (Screen.printed_listToJsx _ screens wellFormed.2)

theorem Block.printed_listToJsx {setter : Option Text} {workflow index : Nat}
    (callable : Callable setter) (blocks : List Block) (wellFormed : Block.AllWellFormed blocks) :
    ∀ node ∈ Block.listToJsx setter workflow index blocks, node.Printed := by
  cases blocks with
  | nil => exact List.forall_mem_nil _
  | cons block blocks =>
      exact List.forall_mem_cons.2 ⟨block.printed_toJsx callable wellFormed.1,
        Block.printed_listToJsx callable blocks wellFormed.2⟩

/-- A screen is guarded by its name and by the state of its workflow. -/
theorem Screen.printed_listToJsx {workflow : Nat} (number : Nat) (screens : List Screen)
    (wellFormed : Screen.AllWellFormed screens) :
    ∀ node ∈ Screen.listToJsx (StateNames.ofIndex number) workflow screens, node.Printed := by
  cases screens with
  | nil => exact List.forall_mem_nil _
  | cons screen screens =>
      cases screen with
      | mk id children =>
          obtain ⟨value, setter⟩ := StateNames.isIdentifier_ofIndex number
          have callable : Callable (some (StateNames.ofIndex number).setter) := by
            rintro name ⟨⟩
            exact setter
          have shown : (Screen.toJsx (some (StateNames.ofIndex number).setter) workflow []
              ⟨id, children⟩).Printed :=
            printed_wrap rfl (Block.printed_listToJsx callable children wellFormed.1.2)
          exact List.forall_mem_cons.2
            ⟨Node.printed_guard value wellFormed.1.1.not_mem_lineTerminators shown,
              Screen.printed_listToJsx number screens wellFormed.2⟩

end

namespace Component

/-- Well-formed blocks have markup that is printed by the rules. -/
theorem printed_body {blocks : List Block} (wellFormed : Block.AllWellFormed blocks) :
    ∀ node ∈ body blocks, node.Printed := by
  unfold body
  refine Block.printed_listToJsx ?_ blocks wellFormed
  intro name found
  split at found
  · cases found
  · cases found
    exact (StateNames.isIdentifier_ofIndex 0).2

/-- What stands right in front of the markup in a module. -/
def opening : Text :=
  "  return (\n    <div className=\"space-y-2\">\n".toList

/-- What stands behind the markup. -/
def closing : Text :=
  "    </div>\n  );\n\x7d\n".toList

theorem printModule_append (first second : List Text) :
    printModule (first ++ second) = printModule first ++ printModule second :=
  List.flatMap_append

theorem printModule_moduleLines (imports states body : List Text) :
    ∃ front, printModule (moduleLines imports states body) =
      front ++ opening ++ printModule body ++ closing := by
  refine ⟨printModule (imports ++ ["".toList, "export function GeneratedComponent() \x7b".toList] ++
    states), ?_⟩
  rw [moduleLines, printModule_append _ ["    </div>".toList, _, _], printModule_append _ body,
    printModule_append _ ["  return (".toList, _]]
  rfl

end Component

namespace Reading

/-- Whatever a text holds, the body of its component follows the grammar, and every string in it is
a single token. -/
theorem read_body_derives (options : Options) (registry : Registry) (text : Text) :
    let blocks := (read options registry text).document.blocks
    ∃ front body,
      Component.ofBlocks blocks = front ++ Component.opening ++ body ++ Component.closing ∧
        Node.AllDerive (Component.body blocks) body := by
  intro blocks
  have printed := Component.printed_body (allWellFormed_blocks options registry text)
  obtain ⟨front, whole⟩ := Component.printModule_moduleLines _ _
    (Node.printAll 3 (Component.body blocks))
  refine ⟨front, _, whole, ?_⟩
  simpa using Node.allDerive_printAll printed 3 Jsx.isSpace_nil Jsx.isSpace_nil

end Reading

end Mockup
