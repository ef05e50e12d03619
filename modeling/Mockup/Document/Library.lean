import Mockup.Document.Schema

/-!
# The library for data models

Objects are read and written by a library that knows nothing of documents: it is given models, and
goes by what they declare. Whether it can read or write a value is up to the library, since nodes
that are nested too deeply are refused. `ModelLibrary.standard` is one that does what the models
say, up to a limit.
-/

namespace Mockup

/-- A library that reads and writes the objects of models. -/
structure ModelLibrary where
  /-- What an object of a model holds, if it fits the model. -/
  validate : Model → Json → Option Value
  /-- The object for a value. -/
  dump : Value → Option Json

/-! ## Reading objects -/

/-- The members of a JSON object. -/
abbrev Members := List (Text × Json)

namespace Members

/-- The member written under one of the given names, the first of them winning. -/
def find? (members : Members) (names : List String) : Option Json :=
  names.findSome? fun name => members.lookup name.toList

/-- The type that is written into an object. -/
def tag? (members : Members) : Option Text :=
  (members.lookup "type".toList).bind Json.text?

end Members

/-- A JSON value as a whole number. Truth values count as numbers. -/
def Json.integer? : Json → Option Int
  | .number value => some value
  | .bool value => some (if value then 1 else 0)
  | _ => none

def Json.isNull : Json → Bool
  | .null => true
  | _ => false

/-- Whether a JSON value says that a member is absent. -/
def Model.Field.takesAsAbsent (field : Field) (json : Json) : Bool :=
  json.isNull && field.presence.isOptional

/-- The model of an object, given the shape that it is to have. -/
def Shape.model? (members : Members) : Shape → Option Model
  | .node model => some model
  | .oneOf models => members.tag?.bind (Model.ofTag? models)
  | _ => none

/-- What a member holds, given what is read from the value that is written for it. -/
def Model.Field.fill (field : Field) : Option (Option Value) → Option Value
  | some value => value
  | none =>
    match field.presence with
    | .required => none
    | .default value => some value
    | .optional => some .nothing

mutual

/-- Reads a value of a shape. -/
def Json.validate : Json → Shape → Option Value
  | .object members, shape => do
    let model ← shape.model? members
    let values ← model.fields.mapM fun (field : Model.Field) => field.fill <|
      field.names.findSome? fun name => Json.validateMember members name.toList field
    some (.node model values)
  | .array elements, .list element least =>
    if least ≤ elements.length then (Json.validateEach elements element).map .list else none
  | .string content, .text => some (.text content)
  | .string content, .word words => if content ∈ words then some (.text content) else none
  | json, .integer least most =>
    json.integer?.bind fun value =>
      if least ≤ value ∧ value ≤ most then some (.number value) else none
  | _, _ => none
termination_by structural json => json

/-- Reads each element of a list. -/
def Json.validateEach : List Json → Shape → Option (List Value)
  | [], _ => some []
  | json :: elements, shape => do
    let value ← json.validate shape
    let values ← Json.validateEach elements shape
    some (value :: values)

/-- Reads the member with the given name; there may be none. -/
def Json.validateMember : List (Text × Json) → Text → Model.Field → Option (Option Value)
  | [], _, _ => none
  | (key, json) :: members, name, field =>
    if key = name then
      some (if field.takesAsAbsent json then some .nothing else json.validate field.shape)
    else Json.validateMember members name field

end

/-! ## Writing objects -/

/-- Writes a member in front of others; what is null is left out. -/
def Members.add (name : String) (json : Json) (members : Members) : Members :=
  if json.isNull then members else (name.toList, json) :: members

mutual

/-- A value as JSON. -/
def Value.written : Value → Json
  | .nothing => .null
  | .text content => .string content
  | .number value => .number value
  | .list elements => .array (Value.eachWritten elements)
  | .node model values => .object (Value.membersWritten values model.fields)

def Value.eachWritten : List Value → List Json
  | [] => []
  | value :: values => value.written :: Value.eachWritten values

/-- The members of an object, given what they hold. -/
def Value.membersWritten : List Value → List Model.Field → Members
  | value :: values, field :: fields =>
    Members.add field.name value.written (Value.membersWritten values fields)
  | _, _ => []

end

/-! ## The standard library -/

mutual

/-- How many nodes stand in each other. -/
def Value.nesting : Value → Nat
  | .list elements => Value.nestingOf elements
  | .node _ values => Value.nestingOf values + 1
  | .nothing | .text _ | .number _ => 0

def Value.nestingOf : List Value → Nat
  | [] => 0
  | value :: values => max value.nesting (Value.nestingOf values)

end

namespace ModelLibrary

/-- How many nodes the standard library can have in each other. -/
def nestingLimit : Nat := 254

/-- The library that does what the models say, unless nodes are nested too deeply. -/
def standard : ModelLibrary where
  validate model json :=
    (json.validate (.node model)).filter fun value => value.nesting ≤ nestingLimit
  dump value := if value.nesting ≤ nestingLimit then some value.written else none

end ModelLibrary

end Mockup
