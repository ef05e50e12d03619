import Mockup.Document.Library

/-!
# What a library for data models does

`Conforms` says what an object holds according to its model: each declared member is found under one
of its names, or has its default, and members that are not declared do not matter. A library is
lawful up to a depth if it reads what conforms and writes what fits, as long as no more nodes than
that stand in each other. Beyond that it may do as it likes. The standard library is lawful up to
its limit.
-/

namespace Mockup

mutual

/-- A JSON value has the given shape and holds the given value. -/
inductive Conforms : Shape → Json → Value → Prop where
  | text {content : Text} : Conforms .text (.string content) (.text content)
  | integer {least most value : Int} (above : least ≤ value) (below : value ≤ most) :
      Conforms (.integer least most) (.number value) (.number value)
  | word {words : List Text} {word : Text} (listed : word ∈ words) :
      Conforms (.word words) (.string word) (.text word)
  | list {element : Shape} {least : Nat} {elements : List Json} {values : List Value}
      (long : least ≤ elements.length) (each : ConformEach element elements values) :
      Conforms (.list element least) (.array elements) (.list values)
  | node {shape : Shape} {members : Members} {model : Model} {values : List Value}
      (chosen : shape.model? members = some model)
      (inside : ConformMembers members model.fields values) :
      Conforms shape (.object members) (.node model values)

/-- Each element of a list holds the value in its place. -/
inductive ConformEach : Shape → List Json → List Value → Prop where
  | nil {shape : Shape} : ConformEach shape [] []
  | cons {shape : Shape} {json : Json} {elements : List Json} {value : Value}
      {values : List Value} (first : Conforms shape json value)
      (rest : ConformEach shape elements values) :
      ConformEach shape (json :: elements) (value :: values)

/-- An object holds the given values in the given members. -/
inductive ConformMembers : Members → List Model.Field → List Value → Prop where
  | nil {members : Members} : ConformMembers members [] []
  | given {members : Members} {field : Model.Field} {fields : List Model.Field} {json : Json}
      {value : Value} {values : List Value} (found : members.find? field.names = some json)
      (conforms : Conforms field.shape json value)
      (rest : ConformMembers members fields values) :
      ConformMembers members (field :: fields) (value :: values)
  | default {members : Members} {field : Model.Field} {fields : List Model.Field}
      {value : Value} {values : List Value} (missing : members.find? field.names = none)
      (presence : field.presence = .default value)
      (rest : ConformMembers members fields values) :
      ConformMembers members (field :: fields) (value :: values)
  | absent {members : Members} {field : Model.Field} {fields : List Model.Field}
      {values : List Value} (missing : members.find? field.names = none)
      (presence : field.presence = .optional) (rest : ConformMembers members fields values) :
      ConformMembers members (field :: fields) (.nothing :: values)
  | null {members : Members} {field : Model.Field} {fields : List Model.Field}
      {values : List Value} (found : members.find? field.names = some .null)
      (presence : field.presence = .optional) (rest : ConformMembers members fields values) :
      ConformMembers members (field :: fields) (.nothing :: values)

end

/-- A node of the given model may stand where a shape is asked for. -/
def Shape.Admits : Shape → Model → Prop
  | .node expected, model => model = expected
  | .oneOf models, model => model.tag?.bind (Model.ofTag? models) = some model
  | _, _ => False

mutual

/-- A value may stand where a shape is asked for. -/
def Value.Fits : Value → Shape → Prop
  | .node model values, shape => shape.Admits model ∧ Value.MembersFit values model.fields
  | .text _, .text => True
  | .text word, .word words => word ∈ words
  | .number value, .integer least most => least ≤ value ∧ value ≤ most
  | .list elements, .list element least => least ≤ elements.length ∧ Value.EachFits elements element
  | _, _ => False

def Value.EachFits : List Value → Shape → Prop
  | [], _ => True
  | value :: values, shape => value.Fits shape ∧ Value.EachFits values shape

/-- Values are what the given members may hold; only an optional member may hold nothing. -/
def Value.MembersFit : List Value → List Model.Field → Prop
  | [], [] => True
  | .nothing :: values, field :: fields =>
    field.presence = .optional ∧ Value.MembersFit values fields
  | value :: values, field :: fields => value.Fits field.shape ∧ Value.MembersFit values fields
  | _, _ => False

end

/-- A library goes by the models as long as no more nodes than `limit` stand in each other. -/
structure ModelLibrary.Lawful (library : ModelLibrary) (limit : Nat) : Prop where
  validate_of_conforms {model : Model} {json : Json} {value : Value} :
    Conforms (.node model) json value → value.nesting ≤ limit →
      library.validate model json = some value
  dump_of_fits {model : Model} {value : Value} :
    value.Fits (.node model) → value.nesting ≤ limit → library.dump value = some value.written

theorem ModelLibrary.Lawful.mono {library : ModelLibrary} {limit bound : Nat}
    (lawful : library.Lawful limit) (within : bound ≤ limit) : library.Lawful bound where
  validate_of_conforms conforms shallow :=
    lawful.validate_of_conforms conforms (Nat.le_trans shallow within)
  dump_of_fits fits shallow := lawful.dump_of_fits fits (Nat.le_trans shallow within)

/-! ## The standard library -/

/-- What is read from the value that is written for a member. -/
def Model.Field.validate (field : Field) (json : Json) : Option Value :=
  if field.takesAsAbsent json then some .nothing else json.validate field.shape

theorem Model.Field.validate_of_conforms {field : Field} {json : Json} {value : Value}
    (conforms : Conforms field.shape json value)
    (valid : json.validate field.shape = some value) : field.validate json = some value := by
  have filled : json.isNull = false := by
    generalize field.shape = shape at conforms
    cases conforms <;> rfl
  simp [validate, takesAsAbsent, filled, valid]

theorem Model.Field.validate_null {field : Field} (optional : field.presence = .optional) :
    field.validate .null = some .nothing := by
  simp [validate, takesAsAbsent, Json.isNull, optional, Presence.isOptional]

theorem Json.validateMember_eq_map (members : Members) (name : Text) (field : Model.Field) :
    Json.validateMember members name field = (members.lookup name).map field.validate := by
  induction members with
  | nil => rfl
  | cons entry members ih =>
      obtain ⟨key, json⟩ := entry
      rw [Json.validateMember, List.lookup_cons]
      by_cases same : key = name
      · rw [if_pos same, beq_iff_eq.2 same.symm]
        rfl
      · rw [if_neg same, beq_false_of_ne (Ne.symm same), ih]

/-- What an object holds in a member. -/
def Model.Field.read (members : Members) (field : Field) : Option Value :=
  field.fill ((members.find? field.names).map field.validate)

theorem Json.fill_validateMember (members : Members) (field : Model.Field) :
    field.fill (field.names.findSome? fun name =>
      Json.validateMember members name.toList field) = field.read members := by
  rw [Model.Field.read, Members.find?, List.map_findSome?]
  congr 2
  funext name
  exact Json.validateMember_eq_map members name.toList field

namespace Model.Field

variable {members : Members} {field : Field}

theorem read_of_find?_eq_some {json : Json} (found : members.find? field.names = some json) :
    field.read members = field.validate json := by
  rw [read, found]
  rfl

theorem read_of_find?_eq_none (missing : members.find? field.names = none) :
    field.read members = field.fill none := by
  rw [read, missing]
  rfl

/-- The members of an object are read one after the other. -/
theorem mapM_read_cons {fields : List Field} {value : Value} {values : List Value}
    (first : field.read members = some value)
    (rest : fields.mapM (read members) = some values) :
    (field :: fields).mapM (read members) = some (value :: values) := by
  simp [first, rest]

end Model.Field

mutual

theorem Conforms.validate_eq_some {shape : Shape} {json : Json} {value : Value}
    (conforms : Conforms shape json value) : json.validate shape = some value := by
  cases conforms with
  | text => rfl
  | integer above below => simp [Json.validate, Json.integer?, above, below]
  | word listed => simp [Json.validate, listed]
  | list long each => simp [Json.validate, long, each.validateEach_eq_some]
  | node chosen inside =>
      simp [Json.validate, Json.fill_validateMember, chosen, inside.mapM_read]

theorem ConformEach.validateEach_eq_some {shape : Shape} {elements : List Json}
    {values : List Value} (each : ConformEach shape elements values) :
    Json.validateEach elements shape = some values := by
  cases each with
  | nil => rfl
  | cons first rest =>
      simp [Json.validateEach, first.validate_eq_some, rest.validateEach_eq_some]

theorem ConformMembers.mapM_read {members : Members} {fields : List Model.Field}
    {values : List Value} (inside : ConformMembers members fields values) :
    fields.mapM (Model.Field.read members) = some values := by
  cases inside with
  | nil => rfl
  | given found conforms rest =>
      apply Model.Field.mapM_read_cons _ rest.mapM_read
      rw [Model.Field.read_of_find?_eq_some found]
      exact Model.Field.validate_of_conforms conforms conforms.validate_eq_some
  | default missing presence rest =>
      apply Model.Field.mapM_read_cons _ rest.mapM_read
      rw [Model.Field.read_of_find?_eq_none missing, Model.Field.fill, presence]
  | absent missing presence rest =>
      apply Model.Field.mapM_read_cons _ rest.mapM_read
      rw [Model.Field.read_of_find?_eq_none missing, Model.Field.fill, presence]
  | null found presence rest =>
      apply Model.Field.mapM_read_cons _ rest.mapM_read
      rw [Model.Field.read_of_find?_eq_some found, Model.Field.validate_null presence]

end

theorem ModelLibrary.standard_lawful : standard.Lawful nestingLimit where
  validate_of_conforms conforms shallow := by
    simp [standard, conforms.validate_eq_some, shallow]
  dump_of_fits _ shallow := if_pos shallow

end Mockup
