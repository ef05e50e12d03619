import Mockup.Proofs.Jsx.Signs

/-!
# Attributes in markup

What the attributes of one name say, one after the other: read from a text of markup, and in a tree
of markup. In the text of a tree they say what they say in the tree. Inline nodes, tables and boxes
say little in attributes: the names that fields use for themselves and for their options are not
among those.
-/

namespace Mockup

namespace Jsx

/-- What a sign says, if it is an attribute with the given name. -/
def Sign.contents (name : String) : Sign → List Text
  | .attribute other value => if other = name.toList then [EntityTable.jsx.unescape value] else []
  | .opening _ | .closing .. | .code .. => []

/-- What the attributes with the given name say in a text of markup. -/
def contentsInText (name : String) (text : Text) : List Text :=
  (signsIn text).flatMap (Sign.contents name)

/-- What an attribute says, if it has the given name. -/
def Attribute.contents (name : String) : Attribute → List Text
  | .text other content => if other = name.toList then [content] else []
  | .key _ | .onClick .. => []

/-- What the attributes of an element say under the given name. -/
def contentsIn (name : String) (attributes : List Attribute) : List Text :=
  attributes.flatMap (Attribute.contents name)

namespace Phrase

mutual

def contents (name : String) : Phrase → List Text
  | .text _ => []
  | .element _ attributes children => contentsIn name attributes ++ contentsOf name children
  | .void _ attributes => contentsIn name attributes

def contentsOf (name : String) : List Phrase → List Text
  | [] => []
  | phrase :: phrases => phrase.contents name ++ contentsOf name phrases

end

end Phrase

namespace Node

mutual

/-- What the attributes with the given name say in markup. -/
def contents (name : String) : Node → List Text
  | .line phrase => phrase.contents name
  | .element _ attributes children => contentsIn name attributes ++ contentsOf name children
  | .guard _ _ body => body.contents name

def contentsOf (name : String) : List Node → List Text
  | [] => []
  | node :: nodes => node.contents name ++ contentsOf name nodes

end

end Node

variable {name : String}

theorem Attribute.contents_sign (property : Attribute) :
    property.sign.contents name = property.contents name := by
  cases property with
  | key | onClick => rfl
  | text other content =>
      have read : EntityTable.jsx.unescape (EntityTable.jsx.escape content) = content :=
        EntityTable.readable_jsx.unescape_escape content
      rw [Attribute.sign, Sign.contents, Attribute.contents, read]

theorem contents_attributes (attributes : List Attribute) :
    (attributes.map Attribute.sign).flatMap (Sign.contents name) = contentsIn name attributes := by
  rw [List.flatMap_map, contentsIn]
  exact congrArg attributes.flatMap (funext Attribute.contents_sign)

mutual

theorem Phrase.contents_signs (phrase : Phrase) :
    phrase.signs.flatMap (Sign.contents name) = phrase.contents name := by
  cases phrase with
  | text content => rfl
  | element tag attributes children =>
      have inside := Phrase.contents_signsOf children
      simp [Phrase.signs, Sign.contents, contents_attributes, inside, Phrase.contents]
  | void tag attributes =>
      simp [Phrase.signs, Sign.contents, contents_attributes, Phrase.contents]

theorem Phrase.contents_signsOf (phrases : List Phrase) :
    (Phrase.signsOf phrases).flatMap (Sign.contents name) = Phrase.contentsOf name phrases := by
  cases phrases with
  | nil => rfl
  | cons phrase phrases =>
      rw [Phrase.signsOf, List.flatMap_append, phrase.contents_signs,
        Phrase.contents_signsOf phrases, Phrase.contentsOf]

end

mutual

/-- The signs of a tree say what its attributes say. -/
theorem Node.contents_signs (node : Node) (depth : Nat) :
    (node.signs depth).flatMap (Sign.contents name) = node.contents name := by
  cases node with
  | line phrase => exact phrase.contents_signs
  | element tag attributes children =>
      have inside := Node.contents_signsOf children (depth + 1)
      simp [Node.signs, Sign.contents, contents_attributes, inside, Node.contents]
  | guard state screen body =>
      have inside := Node.contents_signs body (depth + 1)
      simp [Node.signs, Sign.contents, inside, Node.contents]

theorem Node.contents_signsOf (nodes : List Node) (depth : Nat) :
    (Node.signsOf depth nodes).flatMap (Sign.contents name) = Node.contentsOf name nodes := by
  cases nodes with
  | nil => rfl
  | cons node nodes =>
      rw [Node.signsOf, List.flatMap_append, node.contents_signs, Node.contents_signsOf nodes,
        Node.contentsOf]

end

/-- The text of a piece of markup says in attributes what the tree says. -/
theorem contentsInText_print {named : Text → Prop}
    (identifiers : ∀ tag, named tag → IsIdentifier tag) (node : Node) (worded : node.Worded named)
    (depth : Nat) :
    contentsInText name (Component.printModule (node.print depth)) = node.contents name := by
  rw [contentsInText, signsIn, Node.run_print identifiers node worded]
  exact node.contents_signs depth

@[simp] theorem contentsIn_nil : contentsIn name [] = [] := rfl

@[simp] theorem contentsIn_key (index : Nat) (attributes : List Attribute) :
    contentsIn name (.key index :: attributes) = contentsIn name attributes := rfl

@[simp] theorem contentsIn_onClick (setter screen : Text) (attributes : List Attribute) :
    contentsIn name (.onClick setter screen :: attributes) = contentsIn name attributes := rfl

@[simp] theorem contentsIn_property (other : String) (content : Text)
    (attributes : List Attribute) :
    contentsIn name (property other content :: attributes) =
      if other = name then content :: contentsIn name attributes
      else contentsIn name attributes := by
  by_cases same : other = name
  · simp [contentsIn, property, Attribute.contents, same]
  · have differs : other.toList ≠ name.toList := fun equal => same (String.toList_inj.1 equal)
    simp [contentsIn, property, Attribute.contents, same, differs]

@[simp] theorem contentsIn_classes (content : Text) (attributes : List Attribute) :
    contentsIn name (classes content :: attributes) =
      if "className" = name then content :: contentsIn name attributes
      else contentsIn name attributes :=
  contentsIn_property "className" content attributes

/-! ## Markup -/

@[simp] theorem Phrase.contents_text (content : Text) :
    (Phrase.text content).contents name = [] := rfl

@[simp] theorem Phrase.contentsOf_nil : Phrase.contentsOf name [] = [] := rfl

@[simp] theorem Phrase.contentsOf_cons (phrase : Phrase) (phrases : List Phrase) :
    Phrase.contentsOf name (phrase :: phrases) =
      phrase.contents name ++ Phrase.contentsOf name phrases := rfl

theorem Phrase.contentsOf_mapIdx_eq_nil {α : Type} {make : Nat → α → Phrase} (values : List α)
    (silent : ∀ index value, (make index value).contents name = []) :
    Phrase.contentsOf name (values.mapIdx make) = [] := by
  induction values generalizing make with
  | nil => rfl
  | cons value values ih =>
      rw [List.mapIdx_cons, contentsOf_cons, silent, ih fun index => silent (index + 1)]
      rfl

@[simp] theorem Node.contentsOf_nil : Node.contentsOf name [] = [] := rfl

@[simp] theorem Node.contentsOf_cons (node : Node) (nodes : List Node) :
    Node.contentsOf name (node :: nodes) = node.contents name ++ Node.contentsOf name nodes := rfl

/-- Markup that is made for each of a list of values. -/
theorem Node.contentsOf_mapIdx {α : Type} {make : Nat → α → Node} {said : Nat → α → List Text}
    (values : List α) (made : ∀ index value, (make index value).contents name = said index value) :
    Node.contentsOf name (values.mapIdx make) = (values.mapIdx said).flatten := by
  induction values generalizing make said with
  | nil => rfl
  | cons value values ih =>
      rw [List.mapIdx_cons, contentsOf_cons, made, ih fun index => made (index + 1),
        List.mapIdx_cons, List.flatten_cons]

theorem Node.contentsOf_mapIdx_singleton {α : Type} {make : Nat → α → Node} {said : Nat → α → Text}
    (values : List α)
    (made : ∀ index value, (make index value).contents name = [said index value]) :
    Node.contentsOf name (values.mapIdx make) = values.mapIdx said := by
  induction values generalizing make said with
  | nil => rfl
  | cons value values ih =>
      rw [List.mapIdx_cons, contentsOf_cons, made, ih fun index => made (index + 1),
        List.mapIdx_cons, List.singleton_append]

theorem Node.contentsOf_mapIdx_eq_nil {α : Type} {make : Nat → α → Node} (values : List α)
    (silent : ∀ index value, (make index value).contents name = []) :
    Node.contentsOf name (values.mapIdx make) = [] := by
  rw [Node.contentsOf_mapIdx values silent]
  simp

variable {tag : String} {attributes : List Attribute}

@[simp] theorem contents_wrap (children : List Node) :
    (wrap tag attributes children).contents name =
      contentsIn name attributes ++ Node.contentsOf name children := rfl

@[simp] theorem contents_single :
    (single tag attributes).contents name = contentsIn name attributes := rfl

@[simp] theorem contents_compact (children : List Phrase) :
    (compact tag attributes children).contents name =
      contentsIn name attributes ++ Phrase.contentsOf name children := rfl

@[simp] theorem contents_fieldLabel (id label : Text) :
    (fieldLabel id label).contents name = if "htmlFor" = name then [id] else [] := by
  simp [fieldLabel]

@[simp] theorem contents_field (index : Nat) (children : List Node) :
    (field index children).contents name =
      (if "className" = name then ["space-y-2".toList] else []) ++
        Node.contentsOf name children := by
  rw [field, contents_wrap, contentsIn_key, contentsIn_classes, contentsIn_nil]

end Jsx

/-- The text of a component says in attributes what its markup says. -/
theorem Component.contentsInText_markup (name : String) (blocks : List Block) :
    Jsx.contentsInText name (markup blocks) = Jsx.Node.contentsOf name (body blocks) := by
  rw [Jsx.contentsInText, signsIn_markup]
  exact Jsx.Node.contents_signsOf (body blocks) 3

open Jsx (Phrase Node)

variable {name : String}

theorem Inline.contents_emphasizedPhrase (content : Text) (index : Nat) :
    (Inline.emphasizedPhrase content index).contents name = [] := rfl

theorem Inline.contents_toPhrase (node : Inline) (index : Nat) :
    (node.toPhrase index).contents name = [] := by
  cases node with
  | text | italic => rfl
  | bold content italics =>
      rcases italics with _ | _ | ⟨first, more⟩
      · rfl
      · rfl
      · exact Phrase.contentsOf_mapIdx_eq_nil (first :: more) fun i inner =>
          contents_emphasizedPhrase inner i

@[simp] theorem Inline.contentsOf_toPhrases (nodes : List Inline) :
    Phrase.contentsOf name (Inline.toPhrases nodes) = [] :=
  Phrase.contentsOf_mapIdx_eq_nil nodes fun index node => node.contents_toPhrase index

theorem Table.contents_toJsx (table : Table) (index : Nat) :
    (table.toJsx index).contents name = [] := by
  have cells : ∀ (tag : String) (texts : List Text), Node.contentsOf name
      (texts.mapIdx fun i text => Jsx.compact tag [.key i] [.text text]) = [] := fun _ texts =>
    Node.contentsOf_mapIdx_eq_nil texts fun _ _ => rfl
  have rows : Node.contentsOf name (table.rows.mapIdx fun i row =>
      Jsx.wrap "TableRow" [.key i] (row.mapIdx fun i text =>
        Jsx.compact "TableCell" [.key i] [.text text])) = [] :=
    Node.contentsOf_mapIdx_eq_nil table.rows fun _ row => by simp [cells]
  simp [Table.toJsx, cells, rows]

/-- A box says nothing but its classes. -/
theorem Box.contents_toJsx (unclassed : "className" ≠ name) (box : Box) (index : Nat)
    (contents : List Node) :
    (box.toJsx index contents).contents name = Node.contentsOf name contents := by
  cases box with
  | card title =>
      rcases title with _ | _ | ⟨first, more⟩ <;> simp [Box.toJsx, unclassed]
  | grid | div => simp [Box.toJsx, unclassed]

end Mockup
