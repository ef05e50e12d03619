import Mockup.Proofs.Jsx.Signs
import Mockup.Proofs.Text

/-!
# Joints and wires

What a document and the text of a component have to do with workflows. The joints of a document are
its buttons and its screens. The wires in a text of markup are decoded from its signs: the buttons
with the states that a click sets, and the guards with the screens inside of them. Each joint says
what wires there have to be for it, once the workflows have names.
-/

namespace Mockup

open Jsx (Sign Attribute Phrase Node IsIdentifier)

/-- Where a block stands: its position among its neighbours, and the place of the block around
it. -/
abbrev Place := List Nat

/-- A part of a document that has to do with workflows. -/
inductive Joint where
  /-- A button in the given workflow, or in none; it may lead to a screen. -/
  | button (content : Text) (target : Option Text) (workflow : Option Place)
  /-- A screen that belongs to a workflow, or stands for itself. -/
  | screen (id : Text) (workflow : Option Place) (inside : List Joint)

def Control.joints (workflow : Option Place) : Control → List Joint
  | .button inner => [.button inner.content inner.navigateTo workflow]
  | .input .. | .textarea _ | .dropdown .. | .checkbox _ => []

def Item.joints (workflow : Option Place) : Item → List Joint
  | .control inner => inner.joints workflow
  | .row controls => controls.flatMap (Control.joints workflow)
  | .header .. | .text _ | .radioGroup .. | .image .. => []

mutual

/-- What a block at a place has to do with workflows; `workflow` is the innermost one around it. -/
def Block.joints (workflow : Option Place) (place : Place) : Block → List Joint
  | .item inner => inner.joints workflow
  | .table _ => []
  | .box _ children => Block.jointsOf workflow place 0 children
  | .screen inner => [.screen inner.id none (inner.joints workflow place)]
  | .workflow _ screens => Screen.jointsOf place 0 screens

def Block.jointsOf (workflow : Option Place) (place : Place) (index : Nat) :
    List Block → List Joint
  | [] => []
  | block :: blocks =>
    block.joints workflow (index :: place) ++ Block.jointsOf workflow place (index + 1) blocks

def Screen.joints (workflow : Option Place) (place : Place) : Screen → List Joint
  | ⟨_, children⟩ => Block.jointsOf workflow place 0 children

/-- The screens of the workflow at a place. -/
def Screen.jointsOf (workflow : Place) (index : Nat) : List Screen → List Joint
  | [] => []
  | screen :: screens =>
    .screen screen.id (some workflow) (screen.joints (some workflow) (index :: workflow)) ::
      Screen.jointsOf workflow (index + 1) screens

end

/-- The text that a single-quoted literal stands for, if it is complete and nothing follows it. -/
def Text.literalValue? (text : Text) : Option Text :=
  match readLiteral? text with
  | some (value, []) => some value
  | _ => none

@[simp] theorem Text.literalValue?_literal (text : Text) :
    literalValue? (literal text) = some text := by
  have written := readLiteral?_literal text []
  rw [List.append_nil] at written
  rw [literalValue?, written]

/-- A part of a text of markup that has to do with states. -/
inductive Wire where
  /-- A button begins. -/
  | button
  /-- A click calls `setter` with the name of a screen. -/
  | click (setter screen : Text)
  /-- A button ends, and this is its label. -/
  | label (content : Text)
  /-- A screen begins. -/
  | screen (id : Text)
  /-- What follows is only there while a state names a screen. -/
  | guard (state screen : Text)
  | unguard
  /-- Code that is none of these. -/
  | other (code : Text)
  deriving DecidableEq, Repr

namespace Wire

/-- Reads a name, the text `between` and a literal; what stands behind them comes last. -/
def readNamed? (between code : Text) : Option (Text × Text × Text) :=
  ((Text.after? between (code.dropWhile Char.isAlphanum)).bind Text.readLiteral?).map
    fun (value, rest) => (code.takeWhile Char.isAlphanum, value, rest)

/-- What the action of an element does. -/
def ofAction (code : Text) : Wire :=
  match (Text.after? "() => ".toList code).bind (readNamed? ['(']) with
  | some (setter, target, rest) => if rest = [')'] then .click setter target else .other code
  | none => .other code

/-- What code between tags does. -/
def ofCode (code : Text) : Wire :=
  match readNamed? " === ".toList code with
  | some (state, shown, rest) =>
    if Text.trim rest = "&& (".toList then .guard state shown else .other code
  | none => if Text.trim code = [')'] then .unguard else .other code

end Wire

/-- What a sign has to do with states. -/
def Jsx.Sign.wires : Sign → List Wire
  | .opening tag => if tag = "Button".toList then [.button] else []
  | .closing before tag =>
    if tag = "Button".toList then [.label (EntityTable.jsx.unescape before)] else []
  | .attribute name value =>
    if name = "data-screen-id".toList then [.screen (EntityTable.jsx.unescape value)] else []
  | .code (some name) action => if name = "onClick".toList then [.ofAction action] else []
  | .code none part => [.ofCode part]

/-- The wires in a text of markup. -/
def wiresIn (text : Text) : List Wire :=
  (Jsx.signsIn text).flatMap Sign.wires

/-- What a click on a button does that leads to a screen, given the workflow whose state it is to
set. -/
def Joint.clicks : (target : Option Text) → Option StateNames → List Wire
  | some (first :: more), some names => [.click names.setter (first :: more)]
  | _, _ => []

mutual

/-- What is done for a part of a document, given the names for the workflow at each place and those
for the first workflow of the document. -/
def Joint.wires (names : Place → StateNames) (first : Option StateNames) : Joint → List Wire
  | .button content target workflow =>
    .button :: Joint.clicks target ((workflow.map names).or first) ++ [.label content]
  | .screen id none inside => .screen id :: Joint.wiresOf names first inside
  | .screen id (some workflow) inside =>
    .guard (names workflow).value id :: .screen id :: Joint.wiresOf names first inside ++
      [.unguard]

def Joint.wiresOf (names : Place → StateNames) (first : Option StateNames) :
    List Joint → List Wire
  | [] => []
  | joint :: joints => joint.wires names first ++ Joint.wiresOf names first joints

end

variable {names : Place → StateNames} {first : Option StateNames}

@[simp] theorem Joint.wiresOf_append (front rest : List Joint) :
    wiresOf names first (front ++ rest) =
      wiresOf names first front ++ wiresOf names first rest := by
  induction front with
  | nil => rfl
  | cons joint front ih => simp [wiresOf, ih]

theorem Joint.wiresOf_flatMap {α : Type} (values : List α) (joints : α → List Joint) :
    wiresOf names first (values.flatMap joints) =
      values.flatMap fun value => wiresOf names first (joints value) := by
  induction values with
  | nil => rfl
  | cons value values ih => simp [ih]

namespace Wire

theorem readNamed?_append {name between : Text} (named : IsIdentifier name)
    (apart : ∀ character ∈ between.head?, character.isAlphanum = false) (nonempty : between ≠ [])
    (value rest : Text) :
    readNamed? between (name ++ between ++ Text.literal value ++ rest) =
      some (name, value, rest) := by
  obtain ⟨character, others, rfl⟩ := List.exists_cons_of_ne_nil nonempty
  have ends : character.isAlphanum = false := apart character rfl
  have front : (name ++ (character :: others ++ (Text.literal value ++ rest))).takeWhile
      Char.isAlphanum = name := by
    rw [List.takeWhile_append_of_pos named.isAlphanum]
    simp [ends]
  have behind : (name ++ (character :: others ++ (Text.literal value ++ rest))).dropWhile
      Char.isAlphanum = character :: others ++ (Text.literal value ++ rest) := by
    rw [List.dropWhile_append_of_pos named.isAlphanum]
    simp [ends]
  rw [List.append_assoc, List.append_assoc, readNamed?, front, behind, Text.after?_append,
    Option.bind_some, Text.readLiteral?_literal]
  rfl

theorem ofAction_onClick {setter : Text} (named : IsIdentifier setter) (screen : Text) :
    ofAction ("() => ".toList ++ setter ++ ['('] ++ Text.literal screen ++ [')']) =
      .click setter screen := by
  have read : (Text.after? "() => ".toList
      ("() => ".toList ++ setter ++ ['('] ++ Text.literal screen ++ [')'])).bind
        (readNamed? ['(']) = some (setter, screen, [')']) := by
    rw [List.append_assoc, List.append_assoc, List.append_assoc, Text.after?_append,
      Option.bind_some, ← List.append_assoc, ← List.append_assoc]
    exact readNamed?_append named (by simp) (by decide) screen [')']
  rw [ofAction, read]
  rfl

theorem allBlank_pad (depth : Nat) : Text.allBlank (Jsx.pad depth) = true := by
  simp [Text.allBlank, Jsx.pad, Text.isBlank]

theorem ofCode_guard {state : Text} (named : IsIdentifier state) (screen : Text) (depth : Nat) :
    ofCode (Node.guardCode state screen ++ Jsx.pad depth) = .guard state screen := by
  have read : readNamed? " === ".toList (Node.guardCode state screen ++ Jsx.pad depth) =
      some (state, screen, " && (\n".toList ++ Jsx.pad depth) := by
    rw [Node.guardCode, List.append_assoc]
    exact readNamed?_append named (by simp) (by decide) screen _
  have behind : Text.trim (" && (\n".toList ++ Jsx.pad depth) = "&& (".toList := by
    rw [Text.trim_append_blank _ (allBlank_pad depth)]
    decide
  rw [ofCode, read]
  exact if_pos behind

theorem ofCode_guardEnd (depth : Nat) : ofCode ('\n' :: Jsx.pad depth ++ [')']) = .unguard := by
  have blank : Text.allBlank ('\n' :: Jsx.pad depth) = true := allBlank_pad depth
  have unnamed : readNamed? " === ".toList ('\n' :: Jsx.pad depth ++ [')']) = none := rfl
  have closing : Text.trim ('\n' :: Jsx.pad depth ++ [')']) = [')'] := by
    rw [Text.trim_blank_append blank]
    decide
  rw [ofCode, unnamed]
  exact if_pos closing

end Wire

/-! ## Markup -/

namespace Jsx

def Attribute.wires (property : Attribute) : List Wire :=
  property.sign.wires

def Phrase.wires (phrase : Phrase) : List Wire :=
  phrase.signs.flatMap Sign.wires

def Phrase.wiresOf (phrases : List Phrase) : List Wire :=
  (Phrase.signsOf phrases).flatMap Sign.wires

/-- The wires in the text of a piece of markup. -/
def Node.wires (depth : Nat) (node : Node) : List Wire :=
  (node.signs depth).flatMap Sign.wires

def Node.wiresOf (depth : Nat) (nodes : List Node) : List Wire :=
  (Node.signsOf depth nodes).flatMap Sign.wires

@[simp] theorem Attribute.wires_key (index : Nat) : (Attribute.key index).wires = [] := rfl

theorem Attribute.wires_onClick {setter : Text} (named : IsIdentifier setter) (screen : Text) :
    (Attribute.onClick setter screen).wires = [.click setter screen] :=
  congrArg (fun wire => [wire]) (Wire.ofAction_onClick named screen)

@[simp] theorem wires_property {name : String} (plain : name ≠ "data-screen-id")
    (content : Text) : (property name content).wires = [] :=
  if_neg fun same => plain (String.toList_inj.1 same)

theorem wires_screenId (id : Text) : (property "data-screen-id" id).wires = [.screen id] := by
  have read : EntityTable.jsx.unescape (EntityTable.jsx.escape id) = id :=
    EntityTable.readable_jsx.unescape_escape id
  simp [Attribute.wires, Attribute.sign, property, Sign.wires, read]

@[simp] theorem wires_classes (content : Text) : (classes content).wires = [] :=
  wires_property (by decide) content

@[simp] theorem Phrase.wires_text (content : Text) : (Phrase.text content).wires = [] := rfl

@[simp] theorem Phrase.wiresOf_nil : Phrase.wiresOf [] = [] := rfl

@[simp] theorem Phrase.wiresOf_cons (phrase : Phrase) (phrases : List Phrase) :
    Phrase.wiresOf (phrase :: phrases) = phrase.wires ++ Phrase.wiresOf phrases :=
  List.flatMap_append

variable {depth : Nat} {tag : Text} {attributes : List Attribute}

theorem wires_attributes (attributes : List Attribute) :
    (attributes.map Attribute.sign).flatMap Sign.wires = attributes.flatMap Attribute.wires :=
  List.flatMap_map ..

theorem wires_opening (plain : tag ≠ "Button".toList) : (Sign.opening tag).wires = [] :=
  if_neg plain

theorem wires_closing (plain : tag ≠ "Button".toList) (before : Text) :
    (Sign.closing before tag).wires = [] :=
  if_neg plain

theorem Phrase.wires_void (plain : tag ≠ "Button".toList) :
    (Phrase.void tag attributes).wires = attributes.flatMap Attribute.wires := by
  simp [Phrase.wires, Phrase.signs, wires_opening plain, wires_attributes]

theorem Phrase.wires_element (plain : tag ≠ "Button".toList) (children : List Phrase) :
    (Phrase.element tag attributes children).wires =
      attributes.flatMap Attribute.wires ++ Phrase.wiresOf children := by
  simp [Phrase.wires, Phrase.signs, wires_opening plain, wires_closing plain, wires_attributes,
    Phrase.wiresOf]

/-- The text between the tags of a button is its label. -/
theorem Phrase.wires_button (attributes : List Attribute) (content : Text) :
    (Phrase.element "Button".toList attributes [.text content]).wires =
      .button :: attributes.flatMap Attribute.wires ++ [.label content] := by
  have read : EntityTable.jsx.unescape (EntityTable.jsx.escape content) = content :=
    EntityTable.readable_jsx.unescape_escape content
  simp [Phrase.wires, Phrase.signs, Phrase.signsOf, Phrase.tailOf, Phrase.tail, Sign.wires,
    wires_attributes, read]

@[simp] theorem Node.wires_line (phrase : Phrase) : (Node.line phrase).wires depth = phrase.wires :=
  rfl

@[simp] theorem Node.wiresOf_nil : Node.wiresOf depth [] = [] := rfl

@[simp] theorem Node.wiresOf_cons (node : Node) (nodes : List Node) :
    Node.wiresOf depth (node :: nodes) = node.wires depth ++ Node.wiresOf depth nodes :=
  List.flatMap_append

theorem Node.wires_element (plain : tag ≠ "Button".toList) (children : List Node) :
    (Node.element tag attributes children).wires depth =
      attributes.flatMap Attribute.wires ++ Node.wiresOf (depth + 1) children := by
  simp [Node.wires, Node.signs, wires_opening plain, wires_closing plain, wires_attributes,
    Node.wiresOf]

theorem Node.wires_guard {state : Text} (named : IsIdentifier state) (screen : Text)
    (body : Node) :
    (Node.guard state screen body).wires depth =
      .guard state screen :: body.wires (depth + 1) ++ [.unguard] := by
  have guarded := Wire.ofCode_guard named screen (depth + 1)
  have ended := Wire.ofCode_guardEnd depth
  rw [List.cons_append] at ended
  simp [Node.wires, Node.signs, Sign.wires, guarded, ended]

@[simp] theorem Phrase.wiresOf_mapIdx {α : Type} {make : Nat → α → Phrase} (values : List α)
    (unwired : ∀ index value, (make index value).wires = []) :
    Phrase.wiresOf (values.mapIdx make) = [] := by
  induction values generalizing make with
  | nil => rfl
  | cons value values ih =>
      rw [List.mapIdx_cons, wiresOf_cons, unwired, ih fun index => unwired (index + 1)]
      rfl

/-- Markup that is made for each of a list of values. -/
theorem Node.wiresOf_mapIdx {α : Type} {make : Nat → α → Node} {wires : α → List Wire}
    (values : List α) (made : ∀ index value, (make index value).wires depth = wires value) :
    Node.wiresOf depth (values.mapIdx make) = values.flatMap wires := by
  induction values generalizing make with
  | nil => rfl
  | cons value values ih =>
      rw [List.mapIdx_cons, wiresOf_cons, made, ih fun index => made (index + 1),
        List.flatMap_cons]

@[simp] theorem Node.wiresOf_mapIdx_eq_nil {α : Type} {make : Nat → α → Node} (values : List α)
    (unwired : ∀ index value, (make index value).wires depth = []) :
    Node.wiresOf depth (values.mapIdx make) = [] := by
  rw [Node.wiresOf_mapIdx values unwired]
  simp

section Elements

variable {tag : String}

@[simp] theorem wires_wrap (plain : tag ≠ "Button") (children : List Node) :
    (wrap tag attributes children).wires depth =
      attributes.flatMap Attribute.wires ++ Node.wiresOf (depth + 1) children :=
  Node.wires_element (fun same => plain (String.toList_inj.1 same)) children

@[simp] theorem wires_single (plain : tag ≠ "Button") :
    (single tag attributes).wires depth = attributes.flatMap Attribute.wires :=
  Phrase.wires_void fun same => plain (String.toList_inj.1 same)

@[simp] theorem wires_compact (plain : tag ≠ "Button") (children : List Phrase) :
    (compact tag attributes children).wires depth =
      attributes.flatMap Attribute.wires ++ Phrase.wiresOf children :=
  Phrase.wires_element (fun same => plain (String.toList_inj.1 same)) children

@[simp] theorem wires_fieldLabel (id label : Text) :
    (fieldLabel id label).wires depth = [] := by
  simp [fieldLabel]

@[simp] theorem wires_field (index : Nat) (children : List Node) :
    (field index children).wires depth = Node.wiresOf (depth + 1) children := by
  simp [field]

end Elements

end Jsx

@[simp] theorem Inline.wires_emphasizedPhrase (content : Text) (index : Nat) :
    (Inline.emphasizedPhrase content index).wires = [] := by
  rw [Inline.emphasizedPhrase, Phrase.wires_element (by decide)]
  simp

theorem Inline.wires_toPhrase (node : Inline) (index : Nat) :
    (node.toPhrase index).wires = [] := by
  have strong : "strong".toList ≠ "Button".toList := by decide
  cases node with
  | text content => rfl
  | italic content => exact wires_emphasizedPhrase content index
  | bold content italics =>
      rcases italics with _ | _ | ⟨first, more⟩
      · rw [Inline.toPhrase, Phrase.wires_element strong] <;> simp
      · rw [Inline.toPhrase, Phrase.wires_element strong] <;> simp
      · rw [Inline.toPhrase, Phrase.wires_element strong]
        simp

@[simp] theorem Inline.wiresOf_toPhrases (nodes : List Inline) :
    Phrase.wiresOf (Inline.toPhrases nodes) = [] :=
  Phrase.wiresOf_mapIdx nodes fun index node => wires_toPhrase node index

/-- What buttons call: the state of the innermost workflow, or else that of the first one. -/
def setterFor (names : Place → StateNames) (first : Option StateNames)
    (workflow : Option Place) : Option Text :=
  ((workflow.map names).or first).map StateNames.setter

variable {workflow : Option Place} {depth index : Nat}

theorem Button.wires_toJsx (callable : Callable (setterFor names first workflow))
    (button : Button) :
    (button.toJsx (setterFor names first workflow) index).wires depth =
      .button :: Joint.clicks button.navigateTo ((workflow.map names).or first) ++
        [.label button.content] := by
  obtain ⟨content, variant, className, target⟩ := button
  rw [setterFor] at callable ⊢
  generalize (workflow.map names).or first = called at callable ⊢
  have clicked : ∀ names, called = some names → ∀ screen,
      (Attribute.onClick names.setter screen).wires = [.click names.setter screen] := by
    rintro names rfl
    exact Attribute.wires_onClick (callable names.setter rfl)
  unfold Button.toJsx
  rw [Jsx.compact, Node.wires_line, Phrase.wires_button]
  rcases className with _ | _ | ⟨_, _⟩ <;> rcases target with _ | _ | ⟨_, _⟩ <;>
    rcases called with _ | names <;> simp [Joint.clicks, clicked]

theorem Control.wires_toJsx (callable : Callable (setterFor names first workflow))
    (control : Control) :
    (control.toJsx (setterFor names first workflow) index).wires depth =
      Joint.wiresOf names first (control.joints workflow) := by
  cases control with
  | button inner =>
      rw [Control.toJsx, inner.wires_toJsx callable]
      simp [Control.joints, Joint.wiresOf, Joint.wires]
  | input | textarea => simp [Control.toJsx, Control.joints, Joint.wiresOf]
  | checkbox label => simp [Control.toJsx, Control.joints, Joint.wiresOf]
  | dropdown label options => simp [Control.toJsx, Control.joints, Joint.wiresOf, Jsx.select]

theorem Item.wires_toJsx (callable : Callable (setterFor names first workflow)) (item : Item) :
    (item.toJsx (setterFor names first workflow) index).wires depth =
      Joint.wiresOf names first (item.joints workflow) := by
  cases item with
  | header level children =>
      have heading : 'h' :: Text.ofNat level.number ≠ "Button".toList := by simp
      rw [Item.toJsx, Node.wires_line, Phrase.wires_element heading]
      simp [Item.joints, Joint.wiresOf]
  | text children => simp [Item.toJsx, Item.joints, Joint.wiresOf]
  | control inner => exact inner.wires_toJsx callable
  | radioGroup label first more =>
      simp [Item.toJsx, Item.joints, Joint.wiresOf, Jsx.radioOption]
  | image alt src => simp [Item.toJsx, Item.joints, Joint.wiresOf]
  | row controls =>
      have each : Node.wiresOf (depth + 1) (controls.mapIdx fun i control =>
          control.toJsx (setterFor names first workflow) i) = _ :=
        Node.wiresOf_mapIdx controls fun _ control => control.wires_toJsx callable
      simp [Item.toJsx, Item.joints, each, Joint.wiresOf_flatMap]

theorem Table.wires_toJsx (table : Table) : (table.toJsx index).wires depth = [] := by
  have body : Node.wiresOf (depth + 2) (table.rows.mapIdx fun i row =>
      Jsx.wrap "TableRow" [.key i] (row.mapIdx fun i text =>
        Jsx.compact "TableCell" [.key i] [.text text])) = [] := by
    apply Node.wiresOf_mapIdx_eq_nil
    intro i row
    simp
  simp [Table.toJsx, body]

/-- How deep the contents of a box are indented in it. -/
def Box.inset : Box → Nat
  | .card _ => 2
  | .grid _ | .div _ => 1

theorem Box.wires_toJsx (box : Box) (contents : List Node) :
    (box.toJsx index contents).wires depth = Node.wiresOf (depth + box.inset) contents := by
  cases box with
  | card title =>
      rcases title with _ | _ | ⟨first, more⟩ <;> simp [Box.toJsx, Box.inset]
  | grid | div => simp [Box.toJsx, Box.inset]

end Mockup
