import Mockup.Proofs.Jsx.Derivation
import Mockup.Proofs.Jsx.Tags

/-!
# The tags of a component

The markup of a document has the tags of native elements and those of the widgets for the kinds of
its blocks, and no others. Conversely, the widgets for these kinds are all in the markup. Both are
shown along the document, one construct after the other. The first one holds for every document,
because it is only about what is written between the texts: the names of tags, attributes and
states.
-/

namespace Mockup

open Jsx (Attribute Phrase Node wrap compact single property fieldLabel field IsIdentifier
  forall_mem_pair forall_mem_mapIdx)

/-- The tags that are not imported. -/
def Jsx.nativeTags : List String :=
  ["h1", "h2", "h3", "h4", "h5", "h6", "p", "strong", "em", "div", "img"]

/-- A tag that needs no import, or that comes with a widget for one of the kinds. -/
def Jsx.Known (kinds : List Kind) (tag : Text) : Prop :=
  (∃ native ∈ nativeTags, native.toList = tag) ∨
    ∃ kind ∈ kinds, ∃ widget ∈ Widget.ofKind kind, tag ∈ widget.exports

theorem Widget.isIdentifier_exports (widget : Widget) :
    ∀ name ∈ widget.exports, IsIdentifier name := by
  cases widget <;> decide

namespace Jsx

theorem isIdentifier_nativeTags : ∀ tag ∈ nativeTags, IsIdentifier tag.toList := by
  decide

variable {kinds : List Kind} {tag : String} {attributes : List Attribute}

theorem Known.native (listed : tag ∈ nativeTags) : Known kinds tag.toList :=
  .inl ⟨tag, listed, rfl⟩

theorem Known.of_kind {kind : Kind} (present : kind ∈ kinds)
    (exported : ∃ widget ∈ Widget.ofKind kind, tag.toList ∈ widget.exports) :
    Known kinds tag.toList :=
  .inr ⟨kind, present, exported⟩

theorem isIdentifier_of_known (tag : Text) (known : Known kinds tag) : IsIdentifier tag := by
  rcases known with ⟨native, listed, rfl⟩ | ⟨kind, -, widget, -, exported⟩
  · exact isIdentifier_nativeTags native listed
  · exact widget.isIdentifier_exports tag exported

/-! ## Markup in words -/

theorem Phrase.allWorded_iff {named : Text → Prop} {phrases : List Phrase} :
    Phrase.AllWorded named phrases ↔ ∀ phrase ∈ phrases, phrase.Worded named := by
  induction phrases with
  | nil => simp [AllWorded]
  | cons phrase phrases ih => simp [AllWorded, ih]

theorem Node.allWorded_iff {named : Text → Prop} {nodes : List Node} :
    Node.AllWorded named nodes ↔ ∀ node ∈ nodes, node.Worded named := by
  induction nodes with
  | nil => simp [AllWorded]
  | cons node nodes ih => simp [AllWorded, ih]

theorem Attribute.worded_of_isPlain {property : Attribute} (plain : property.isPlain = true) :
    property.Worded := by
  cases property with
  | key index => trivial
  | text name content =>
      obtain ⟨listed, known, spelled⟩ := List.any_eq_true.1 plain
      exact ⟨listed, known, of_decide_eq_true spelled⟩
  | onClick setter screen => cases plain

theorem worded_of_all_isPlain (plain : attributes.all Attribute.isPlain = true) :
    ∀ property ∈ attributes, property.Worded :=
  fun property member => Attribute.worded_of_isPlain (List.all_eq_true.1 plain property member)

theorem worded_phrase {children : List Phrase} (known : Known kinds tag.toList)
    (plain : attributes.all Attribute.isPlain = true)
    (contents : ∀ child ∈ children, child.Worded (Known kinds)) :
    (Phrase.element tag.toList attributes children).Worded (Known kinds) :=
  ⟨known, worded_of_all_isPlain plain, Phrase.allWorded_iff.2 contents⟩

theorem worded_compact {children : List Phrase} (known : Known kinds tag.toList)
    (plain : attributes.all Attribute.isPlain = true)
    (contents : ∀ child ∈ children, child.Worded (Known kinds)) :
    (compact tag attributes children).Worded (Known kinds) :=
  worded_phrase known plain contents

theorem worded_single (known : Known kinds tag.toList)
    (plain : attributes.all Attribute.isPlain = true) :
    (single tag attributes).Worded (Known kinds) :=
  ⟨known, worded_of_all_isPlain plain⟩

theorem worded_wrap {children : List Node} (known : Known kinds tag.toList)
    (plain : attributes.all Attribute.isPlain = true)
    (contents : ∀ child ∈ children, child.Worded (Known kinds)) :
    (wrap tag attributes children).Worded (Known kinds) :=
  ⟨known, worded_of_all_isPlain plain, Node.allWorded_iff.2 contents⟩

theorem worded_text (content : Text) :
    ∀ child ∈ [Phrase.text content], child.Worded (Known kinds) :=
  List.forall_mem_singleton.2 trivial

theorem worded_fieldLabel (known : Known kinds "Label".toList) (id label : Text) :
    (fieldLabel id label).Worded (Known kinds) :=
  worded_compact known rfl (worded_text label)

theorem worded_field {index : Nat} {children : List Node}
    (contents : ∀ child ∈ children, child.Worded (Known kinds)) :
    (field index children).Worded (Known kinds) :=
  worded_wrap (.native (by decide)) rfl contents

end Jsx

open Jsx (Known worded_phrase worded_compact worded_single worded_wrap worded_text worded_field
  worded_fieldLabel)

variable {kinds : List Kind} {setter : Option Text} {index : Nat}

theorem Inline.worded_emphasizedPhrase (content : Text) :
    (Inline.emphasizedPhrase content index).Worded (Known kinds) :=
  worded_phrase (.native (by decide)) rfl (worded_text content)

theorem Inline.worded_toPhrase (node : Inline) : (node.toPhrase index).Worded (Known kinds) := by
  have strong : Known kinds "strong".toList := .native (by decide)
  cases node with
  | text content => trivial
  | italic content => exact worded_emphasizedPhrase content
  | bold content italics =>
      rcases italics with - | (- | ⟨first, more⟩)
      · exact worded_phrase strong rfl (worded_text _)
      · exact worded_phrase strong rfl (worded_text _)
      · exact worded_phrase strong rfl
          (forall_mem_mapIdx fun _ content _ => worded_emphasizedPhrase content)

theorem Inline.worded_toPhrases (nodes : List Inline) :
    ∀ phrase ∈ Inline.toPhrases nodes, phrase.Worded (Known kinds) :=
  forall_mem_mapIdx fun _ node _ => worded_toPhrase node

theorem Button.worded_toJsx (callable : Callable setter) (present : Kind.button ∈ kinds)
    (button : Button) : (button.toJsx setter index).Worded (Known kinds) := by
  unfold Button.toJsx
  refine ⟨.of_kind present (by decide), ?_, Phrase.allWorded_iff.2 (worded_text _)⟩
  intro entry member
  simp only [List.mem_cons, List.mem_append, List.cons_append] at member
  rcases member with rfl | rfl | styled | clicked
  · trivial
  · exact Attribute.worded_of_isPlain rfl
  · split at styled
    · cases styled
    · cases styled
    · rw [List.mem_singleton.1 styled]
      exact Attribute.worded_of_isPlain rfl
  · split at clicked
    · rw [List.mem_singleton.1 clicked]
      exact callable _ rfl
    · cases clicked

theorem Jsx.worded_select (present : Kind.dropdown ∈ kinds) (id : Text) (options : List Text) :
    (Jsx.select id options).Worded (Known kinds) := by
  have trigger : (wrap "SelectTrigger" [property "id" id]
      [single "SelectValue" [property "placeholder" "Select an option".toList]]).Worded
        (Known kinds) :=
    worded_wrap (.of_kind present (by decide)) rfl
      (List.forall_mem_singleton.2 (worded_single (.of_kind present (by decide)) rfl))
  apply worded_wrap (.of_kind present (by decide)) rfl
  refine forall_mem_pair trigger (worded_wrap (.of_kind present (by decide)) rfl ?_)
  exact forall_mem_mapIdx fun _ option _ =>
    worded_compact (.of_kind present (by decide)) rfl (worded_text option)

theorem Control.worded_toJsx (callable : Callable setter) (control : Control)
    (present : control.kind ∈ kinds) : (control.toJsx setter index).Worded (Known kinds) := by
  cases control with
  | input label kind =>
      change Kind.input ∈ kinds at present
      exact worded_field (forall_mem_pair (worded_fieldLabel (.of_kind present (by decide)) _ label)
        (worded_single (.of_kind present (by decide)) rfl))
  | textarea label =>
      change Kind.textarea ∈ kinds at present
      exact worded_field (forall_mem_pair (worded_fieldLabel (.of_kind present (by decide)) _ label)
        (worded_single (.of_kind present (by decide)) rfl))
  | dropdown label options =>
      change Kind.dropdown ∈ kinds at present
      exact worded_field (forall_mem_pair (worded_fieldLabel (.of_kind present (by decide)) _ label)
        (Jsx.worded_select present _ _))
  | checkbox label =>
      change Kind.checkbox ∈ kinds at present
      have box : Known kinds "Checkbox".toList := .of_kind present (by decide)
      have labelled : Known kinds "Label".toList := .of_kind present (by decide)
      apply worded_wrap (.native (by decide)) rfl
      refine forall_mem_pair (worded_single box rfl) (worded_wrap labelled rfl ?_)
      exact List.forall_mem_singleton.2 trivial
  | button inner => exact inner.worded_toJsx callable present

/-- The tags of headings are not imported. -/
theorem HeadingLevel.native : ∀ number ≤ 6, 1 ≤ number →
    ∃ tag ∈ Jsx.nativeTags, 'h' :: Text.ofNat number = tag.toList := by
  decide

theorem Item.worded_toJsx (callable : Callable setter) (item : Item)
    (present : item.kinds ⊆ kinds) : (item.toJsx setter index).Worded (Known kinds) := by
  cases item with
  | header level children =>
      obtain ⟨tag, listed, spelled⟩ := HeadingLevel.native _ level.atMostSix level.positive
      rw [Item.toJsx, spelled]
      exact worded_compact (.native listed) rfl (Inline.worded_toPhrases children)
  | text children =>
      exact worded_compact (.native (by decide)) rfl (Inline.worded_toPhrases children)
  | control inner => exact inner.worded_toJsx callable (present List.mem_cons_self)
  | radioGroup label first more =>
      have used : Kind.radioGroup ∈ kinds := present List.mem_cons_self
      have labelled : Known kinds "Label".toList := .of_kind used (by decide)
      have group : Known kinds "RadioGroup".toList := .of_kind used (by decide)
      have choice : Known kinds "RadioGroupItem".toList := .of_kind used (by decide)
      apply worded_field
      refine forall_mem_pair (worded_compact labelled rfl (worded_text label))
        (worded_wrap group rfl ?_)
      exact forall_mem_mapIdx fun _ option _ => worded_wrap (.native (by decide)) rfl
        (forall_mem_pair (worded_single choice rfl) (worded_fieldLabel labelled _ option))
  | image alt src => exact worded_single (.native (by decide)) rfl
  | row controls =>
      apply worded_wrap (.native (by decide)) rfl
      exact forall_mem_mapIdx fun _ control member => control.worded_toJsx callable
        (present (List.mem_cons_of_mem _ (List.mem_map_of_mem member)))

theorem Table.worded_toJsx (present : Kind.table ∈ kinds) (table : Table) :
    (table.toJsx index).Worded (Known kinds) := by
  have row : Known kinds "TableRow".toList := .of_kind present (by decide)
  have cell : Known kinds "TableCell".toList := .of_kind present (by decide)
  have cells : ∀ tag : String, Known kinds tag.toList → ∀ texts : List Text,
      ∀ node ∈ texts.mapIdx fun i text => compact tag [.key i] [.text text],
        node.Worded (Known kinds) :=
    fun _ known _ => forall_mem_mapIdx fun _ text _ => worded_compact known rfl (worded_text text)
  have heads : (wrap "TableRow" []
      (table.headers.mapIdx fun i text => compact "TableHead" [.key i] [.text text])).Worded
        (Known kinds) :=
    worded_wrap row rfl (cells "TableHead" (.of_kind present (by decide)) table.headers)
  apply worded_wrap (.of_kind present (by decide)) rfl
  refine forall_mem_pair
    (worded_wrap (.of_kind present (by decide)) rfl (List.forall_mem_singleton.2 heads))
    (worded_wrap (.of_kind present (by decide)) rfl ?_)
  exact forall_mem_mapIdx fun _ texts _ => worded_wrap row rfl (cells "TableCell" cell texts)

theorem Box.worded_toJsx {contents : List Node}
    (worded : ∀ child ∈ contents, child.Worded (Known kinds)) (box : Box)
    (present : box.kind ∈ kinds) : (box.toJsx index contents).Worded (Known kinds) := by
  cases box with
  | card title =>
      change Kind.card ∈ kinds at present
      have card : Known kinds "Card".toList := .of_kind present (by decide)
      have inside : Known kinds "CardContent".toList := .of_kind present (by decide)
      rcases title with - | (- | ⟨first, more⟩)
      · exact worded_wrap card rfl (List.forall_mem_singleton.2 (worded_wrap inside rfl worded))
      · exact worded_wrap card rfl (List.forall_mem_singleton.2 (worded_wrap inside rfl worded))
      · have title : (compact "CardTitle" [] (Inline.toPhrases (first :: more))).Worded
            (Known kinds) :=
          worded_compact (.of_kind present (by decide)) rfl (Inline.worded_toPhrases _)
        apply worded_wrap card rfl
        exact forall_mem_pair
          (worded_wrap (.of_kind present (by decide)) rfl (List.forall_mem_singleton.2 title))
          (worded_wrap inside rfl worded)
  | grid config => exact worded_wrap (.native (by decide)) rfl worded
  | div className => exact worded_wrap (.native (by decide)) rfl worded

mutual

/-- A block is drawn with the tags for its kinds. -/
theorem Block.worded_toJsx {setter : Option Text} {workflow index : Nat}
    (callable : Callable setter) (block : Block) (present : block.kinds ⊆ kinds) :
    (block.toJsx setter workflow index).Worded (Known kinds) := by
  cases block with
  | item inner => exact inner.worded_toJsx callable present
  | table inner => exact inner.worded_toJsx (present List.mem_cons_self)
  | box outer children =>
      obtain ⟨own, inside⟩ := List.cons_subset.1 present
      exact outer.worded_toJsx (Block.worded_listToJsx callable children inside) own
  | screen inner =>
      exact Screen.worded_toJsx callable inner [.key index] rfl present
  | workflow initial screens =>
      obtain ⟨-, inside⟩ := List.cons_subset.1 present
      exact worded_wrap (.native (by decide)) rfl (Screen.worded_listToJsx _ screens inside)

theorem Block.worded_listToJsx {setter : Option Text} {workflow index : Nat}
    (callable : Callable setter) (blocks : List Block) (present : Block.kindsOf blocks ⊆ kinds) :
    ∀ node ∈ Block.listToJsx setter workflow index blocks, node.Worded (Known kinds) := by
  cases blocks with
  | nil => exact List.forall_mem_nil _
  | cons block blocks =>
      obtain ⟨here, later⟩ := List.append_subset.1 present
      exact List.forall_mem_cons.2 ⟨block.worded_toJsx callable here,
        Block.worded_listToJsx callable blocks later⟩

theorem Screen.worded_toJsx {setter : Option Text} {workflow : Nat} (callable : Callable setter)
    (screen : Screen) (attributes : List Attribute)
    (plain : attributes.all Attribute.isPlain = true) (present : screen.kinds ⊆ kinds) :
    (screen.toJsx setter workflow attributes).Worded (Known kinds) := by
  obtain ⟨id, children⟩ := screen
  obtain ⟨-, inside⟩ := List.cons_subset.1 present
  apply worded_wrap (.native (by decide))
  · rw [List.all_append, plain]
    rfl
  · exact Block.worded_listToJsx callable children inside

/-- The screens of a workflow are guarded by its state. -/
theorem Screen.worded_listToJsx {workflow : Nat} (number : Nat) (screens : List Screen)
    (present : Screen.kindsOf screens ⊆ kinds) :
    ∀ node ∈ Screen.listToJsx (StateNames.ofIndex number) workflow screens,
      node.Worded (Known kinds) := by
  cases screens with
  | nil => exact List.forall_mem_nil _
  | cons screen screens =>
      obtain ⟨here, later⟩ := List.append_subset.1 present
      obtain ⟨value, setter⟩ := StateNames.isIdentifier_ofIndex number
      have callable : Callable (some (StateNames.ofIndex number).setter) := by
        rintro name ⟨⟩
        exact setter
      cases screen with
      | mk id children =>
          refine List.forall_mem_cons.2
            ⟨⟨value, rfl, ?_⟩, Screen.worded_listToJsx number screens later⟩
          exact Screen.worded_toJsx callable ⟨id, children⟩ [] rfl here

end

/-- The name of a widget itself; its other names are those of its parts. -/
def Widget.name (widget : Widget) : Text :=
  widget.exports.headD []

/-- The tag of the widget itself is there, with a blank or a bracket behind its name. -/
def Widget.isShown (tags : List Jsx.Tag) (widget : Widget) : Bool :=
  tags.any fun tag => tag = .opening widget.name ' ' || tag = .opening widget.name '>'

/-- All widgets for a kind are there. -/
def Kind.isShown (tags : List Jsx.Tag) (kind : Kind) : Bool :=
  (Widget.ofKind kind).all (Widget.isShown tags)

theorem Kind.isShown_of_subset {tags others : List Jsx.Tag} (within : tags ⊆ others) {kind : Kind}
    (shown : kind.isShown tags = true) : kind.isShown others = true := by
  apply List.all_eq_true.2
  intro widget used
  obtain ⟨tag, found, same⟩ := List.any_eq_true.1 (List.all_eq_true.1 shown widget used)
  exact List.any_eq_true.2 ⟨tag, within found, same⟩

namespace Jsx.Node

theorem mem_allTags {nodes : List Node} {tag : Jsx.Tag} :
    tag ∈ allTags nodes ↔ ∃ node ∈ nodes, tag ∈ node.tags := by
  induction nodes with
  | nil => simp [allTags]
  | cons node nodes ih => simp [allTags, ih]

theorem allTags_subset_wrap (tag : String) (attributes : List Attribute) (children : List Node) :
    allTags children ⊆ (wrap tag attributes children).tags :=
  fun _ found => List.mem_cons_of_mem _ (List.mem_append_left _ found)

theorem tags_subset_wrap {tag : String} {attributes : List Attribute} {children : List Node}
    {node : Node} (member : node ∈ children) : node.tags ⊆ (wrap tag attributes children).tags :=
  fun _ found => allTags_subset_wrap _ _ _ (mem_allTags.2 ⟨node, member, found⟩)

end Jsx.Node

theorem Control.isShown_toJsx (control : Control) :
    control.kind.isShown (control.toJsx setter index).tags = true := by
  cases control <;> rfl

theorem Item.isShown_toJsx (item : Item) :
    ∀ kind ∈ item.kinds, kind.isShown (item.toJsx setter index).tags = true := by
  cases item with
  | control inner => exact List.forall_mem_singleton.2 inner.isShown_toJsx
  | row controls =>
      refine List.forall_mem_cons.2 ⟨rfl, ?_⟩
      intro kind member
      obtain ⟨control, listed, rfl⟩ := List.mem_map.1 member
      obtain ⟨position, bound, rfl⟩ := List.getElem_of_mem listed
      have drawn : controls[position].toJsx setter position ∈
          controls.mapIdx fun i control => control.toJsx setter i :=
        List.mem_mapIdx.2 ⟨position, bound, rfl⟩
      exact Kind.isShown_of_subset (Node.tags_subset_wrap drawn) controls[position].isShown_toJsx
  | header | text | radioGroup | image => exact List.forall_mem_singleton.2 rfl

theorem Box.allTags_subset_toJsx (box : Box) (index : Nat) (contents : List Node) :
    Node.allTags contents ⊆ (box.toJsx index contents).tags := by
  cases box with
  | card title =>
      have inside : ∀ (content : Text) (nodes : List Node),
          wrap "CardContent" [Jsx.classes content] contents ∈ nodes →
            Node.allTags contents ⊆ (wrap "Card" [.key index] nodes).tags :=
        fun _ _ member =>
          List.Subset.trans (Node.allTags_subset_wrap _ _ contents) (Node.tags_subset_wrap member)
      rcases title with - | (- | ⟨first, more⟩)
      · exact inside _ _ List.mem_cons_self
      · exact inside _ _ List.mem_cons_self
      · exact inside _ _ (List.mem_cons_of_mem _ List.mem_cons_self)
  | grid config => exact Node.allTags_subset_wrap _ _ contents
  | div className => exact Node.allTags_subset_wrap _ _ contents

theorem Box.isShown_toJsx (box : Box) (contents : List Node) :
    box.kind.isShown (box.toJsx index contents).tags = true := by
  cases box with
  | card title => rcases title with - | (- | ⟨first, more⟩) <;> rfl
  | grid config => rfl
  | div className => rfl

mutual

/-- The widgets for the kinds in a block are in its markup. -/
theorem Block.isShown_toJsx {setter : Option Text} {workflow index : Nat} (block : Block) :
    ∀ kind ∈ block.kinds, kind.isShown (block.toJsx setter workflow index).tags = true := by
  cases block with
  | item inner => exact inner.isShown_toJsx
  | table inner => exact List.forall_mem_singleton.2 rfl
  | box outer children =>
      have inside := outer.allTags_subset_toJsx index (Block.listToJsx setter workflow 0 children)
      refine List.forall_mem_cons.2 ⟨outer.isShown_toJsx _, ?_⟩
      intro kind member
      exact Kind.isShown_of_subset inside (Block.isShown_listToJsx children kind member)
  | screen inner => exact Screen.isShown_toJsx inner [.key index]
  | workflow initial screens =>
      refine List.forall_mem_cons.2 ⟨rfl, ?_⟩
      intro kind member
      exact Kind.isShown_of_subset (Node.allTags_subset_wrap _ _ _)
        (Screen.isShown_listToJsx screens kind member)

theorem Block.isShown_listToJsx {setter : Option Text} {workflow index : Nat}
    (blocks : List Block) : ∀ kind ∈ Block.kindsOf blocks,
      kind.isShown (Node.allTags (Block.listToJsx setter workflow index blocks)) = true := by
  cases blocks with
  | nil => exact List.forall_mem_nil _
  | cons block blocks =>
      refine List.forall_mem_append.2 ⟨?_, ?_⟩
      · intro kind member
        exact Kind.isShown_of_subset (List.subset_append_left _ _)
          (block.isShown_toJsx kind member)
      · intro kind member
        exact Kind.isShown_of_subset (List.subset_append_right _ _)
          (Block.isShown_listToJsx blocks kind member)

theorem Screen.isShown_toJsx {setter : Option Text} {workflow : Nat} (screen : Screen)
    (attributes : List Attribute) : ∀ kind ∈ screen.kinds,
      kind.isShown (screen.toJsx setter workflow attributes).tags = true := by
  obtain ⟨id, children⟩ := screen
  refine List.forall_mem_cons.2 ⟨rfl, ?_⟩
  intro kind member
  exact Kind.isShown_of_subset (Node.allTags_subset_wrap _ _ _)
    (Block.isShown_listToJsx children kind member)

theorem Screen.isShown_listToJsx {names : StateNames} {workflow : Nat} (screens : List Screen) :
    ∀ kind ∈ Screen.kindsOf screens,
      kind.isShown (Node.allTags (Screen.listToJsx names workflow screens)) = true := by
  cases screens with
  | nil => exact List.forall_mem_nil _
  | cons screen screens =>
      obtain ⟨id, children⟩ := screen
      refine List.forall_mem_append.2 ⟨?_, ?_⟩
      · intro kind member
        exact Kind.isShown_of_subset (List.subset_append_left _ _)
          (Screen.isShown_toJsx ⟨id, children⟩ [] kind member)
      · intro kind member
        exact Kind.isShown_of_subset (List.subset_append_right _ _)
          (Screen.isShown_listToJsx screens kind member)

end

end Mockup
