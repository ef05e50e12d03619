import Mockup.Block
import Mockup.Json

/-!
# The data model of documents

Documents are exchanged as JSON objects. Each kind of node has a model, which declares the members
of its objects: the names under which a member may be written, what it holds, and whether it may be
left out. What an object holds, names aside, is a node with a value for each declared member.
-/

namespace Mockup

/-- The models of the objects in the JSON form of documents. -/
inductive Model where
  | document
  /-- A plain run of text. -/
  | plain
  | italic
  | bold
  | block (kind : Kind)
  deriving DecidableEq

/-- What a member may hold. -/
inductive Shape where
  | text
  /-- A whole number within two bounds. -/
  | integer (least most : Int)
  /-- One of a few words. -/
  | word (words : List Text)
  /-- A list with a least number of elements. -/
  | list (element : Shape) (least : Nat)
  | node (model : Model)
  /-- A node of one of several models; its type says which. -/
  | oneOf (models : List Model)

/-- What a member holds. A member that is absent holds nothing. -/
inductive Value where
  | nothing
  | text (content : Text)
  | number (value : Int)
  | list (elements : List Value)
  /-- A node, with a value for each member that its model declares. -/
  | node (model : Model) (values : List Value)

/-- Whether a member has to be written. -/
inductive Model.Presence where
  | required
  /-- It may be left out, and then has the given value. -/
  | default (value : Value)
  /-- It may be left out or null, and then holds nothing. -/
  | optional

def Model.Presence.isOptional : Presence → Bool
  | .optional => true
  | .required | .default _ => false

/-- A member that a model declares. -/
structure Model.Field where
  /-- The name under which it is written. -/
  name : String
  /-- The further names under which it is read. -/
  aliases : List String
  shape : Shape
  presence : Presence

namespace Model

namespace Field

def names (field : Field) : List String :=
  field.name :: field.aliases

/-- A member of one name that has to be written. -/
def required (name : String) (shape : Shape) : Field :=
  ⟨name, [], shape, .required⟩

/-- A member that lists something, and nothing by default. -/
def listing (name : String) (element : Shape) : Field :=
  ⟨name, [], .list element 0, .default (.list [])⟩

/-- The member that names the model of an object. -/
def type (tag : Text) : Field :=
  ⟨"type", [], .word [tag], .default (.text tag)⟩

/-- The style classes of a node. -/
def className : Field :=
  ⟨"className", ["class_name"], .text, .optional⟩

end Field

/-- The type that is written into the objects of a model; a document has none. -/
def tag? : Model → Option Text
  | .document => none
  | .plain => some "text".toList
  | .italic => some "italic".toList
  | .bold => some "bold".toList
  | .block kind => some kind.name

/-- The one of several models that a type names. -/
def ofTag? (models : List Model) (tag : Text) : Option Model :=
  models.find? fun model => model.tag? = some tag

def inlines : List Model :=
  [.plain, .bold, .italic]

def controls : List Model :=
  [Kind.input, .textarea, .dropdown, .checkbox, .button].map block

def blocks : List Model :=
  Kind.all.map block

/-- What the objects for a kind of block declare beside their type. -/
def blockFields : Kind → List Field
  | .header => [.required "level" (.integer 1 6), .listing "children" (.oneOf inlines)]
  | .text => [.listing "children" (.oneOf inlines)]
  | .input =>
    [.required "label" .text,
      ⟨"inputType", ["input_type"], .word [InputKind.text.name, InputKind.password.name],
        .default (.text InputKind.text.name)⟩]
  | .textarea | .checkbox => [.required "label" .text]
  | .dropdown => [.required "label" .text, ⟨"options", [], .list .text 0, .optional⟩]
  | .radioGroup => [.required "label" .text, .required "options" (.list .text 1)]
  | .button =>
    [.required "content" .text,
      ⟨"variant", [], .word [ButtonVariant.primary.name, ButtonVariant.outline.name],
        .default (.text ButtonVariant.outline.name)⟩,
      .className, ⟨"navigateTo", ["navigate_to"], .text, .optional⟩]
  | .image => [⟨"alt", [], .text, .default (.text [])⟩, .required "src" .text]
  | .table => [.listing "headers" .text, .listing "rows" (.list .text 0)]
  | .container => [.listing "children" (.oneOf controls)]
  | .card =>
    [⟨"titleChildren", ["title_children"], .list (.oneOf inlines) 0, .optional⟩,
      .listing "children" (.oneOf blocks)]
  | .grid =>
    [⟨"gridConfig", ["grid_config"], .text, .default (.text [])⟩,
      .listing "children" (.oneOf blocks)]
  | .div => [.className, .listing "children" (.oneOf blocks)]
  | .screen => [.required "id" .text, .listing "children" (.oneOf blocks)]
  | .workflow =>
    [⟨"initialScreen", ["initial_screen"], .text, .required⟩,
      .listing "children" (.node (.block .screen))]

/-- What the objects of a model declare beside their type. -/
def ownFields : Model → List Field
  | .document =>
    [.listing "nodes" (.oneOf blocks), ⟨"errors", [], .list .text 0, .optional⟩]
  | .plain | .italic => [.required "content" .text]
  | .bold =>
    [⟨"content", [], .text, .optional⟩, ⟨"children", [], .list (.node .italic) 0, .optional⟩]
  | .block kind => blockFields kind

/-- The members that a model declares, its type first. -/
def fields (model : Model) : List Field :=
  match model.tag? with
  | none => model.ownFields
  | some tag => .type tag :: model.ownFields

/-- Within a model no two members are written under one name. -/
theorem nodup_fieldNames (model : Model) : (model.fields.map Field.name).Nodup := by
  cases model with
  | document | plain | italic | bold => decide
  | block kind => cases kind <;> decide

/-- Within a model no further name of a member is one under which a member is written. -/
theorem alias_ne_name (model : Model) : ∀ field ∈ model.fields, ∀ word ∈ field.aliases,
    ∀ other ∈ model.fields, word ≠ other.name := by
  cases model with
  | document | plain | italic | bold => decide
  | block kind => cases kind <;> decide

end Model

end Mockup
