import Mockup.Proofs.Document.Conformance

/-!
# Spellings of the JSON form

The JSON form of a value may be written in more ways than one. Two JSON values are spellings of the
same thing if they differ in the names that are used for declared members, and in members that are
not declared. An object goes by what is found under each name, so a spelling is described by that
and not by the order of the members. Every spelling of what is written for a value conforms to the
value.
-/

namespace Mockup

mutual

/-- The second value spells the first one, which has the given shape. -/
inductive Respelled : Shape → Json → Json → Prop where
  | same {shape : Shape} {json : Json} : Respelled shape json json
  | list {element : Shape} {least : Nat} {elements others : List Json}
      (each : RespelledEach element elements others) :
      Respelled (.list element least) (.array elements) (.array others)
  | node {shape : Shape} {model : Model} {members others : Members}
      (chosen : shape.model? members = some model)
      (inside : RespelledMembers members others model.fields) :
      Respelled shape (.object members) (.object others)

/-- The elements of one list spell those of another. -/
inductive RespelledEach : Shape → List Json → List Json → Prop where
  | nil {shape : Shape} : RespelledEach shape [] []
  | cons {shape : Shape} {json other : Json} {elements others : List Json}
      (first : Respelled shape json other) (rest : RespelledEach shape elements others) :
      RespelledEach shape (json :: elements) (other :: others)

/-- Each of the given members is written in both objects or in neither. The second object has it
under one of its names, and under no other. Nothing is said about other members. -/
inductive RespelledMembers : Members → Members → List Model.Field → Prop where
  | nil {members others : Members} : RespelledMembers members others []
  | absent {members others : Members} {field : Model.Field} {fields : List Model.Field}
      (unwritten : members.lookup field.name.toList = none)
      (missing : ∀ name ∈ field.names, others.lookup name.toList = none)
      (rest : RespelledMembers members others fields) :
      RespelledMembers members others (field :: fields)
  | present {members others : Members} {field : Model.Field} {fields : List Model.Field}
      {json other : Json} {name : String}
      (written : members.lookup field.name.toList = some json) (named : name ∈ field.names)
      (found : others.lookup name.toList = some other)
      (only : ∀ word ∈ field.names, word ≠ name → others.lookup word.toList = none)
      (respelled : Respelled field.shape json other)
      (rest : RespelledMembers members others fields) :
      RespelledMembers members others (field :: fields)

end

namespace Members

theorem find?_eq_none {members : Members} {names : List String}
    (missing : ∀ name ∈ names, members.lookup name.toList = none) : members.find? names = none :=
  List.findSome?_eq_none_iff.2 missing

/-- A member that is written under one name only is found. -/
theorem find?_eq_some {members : Members} {names : List String} {name : String} {json : Json}
    (named : name ∈ names) (found : members.lookup name.toList = some json)
    (only : ∀ word ∈ names, word ≠ name → members.lookup word.toList = none) :
    members.find? names = some json := by
  induction names with
  | nil => cases named
  | cons first names ih =>
      rw [find?, List.findSome?_cons]
      by_cases same : first = name
      · rw [same, found]
      · have later : name ∈ names := (List.mem_cons.1 named).resolve_left (Ne.symm same)
        rw [only first List.mem_cons_self same]
        exact ih later fun word listed => only word (List.mem_cons_of_mem first listed)

end Members

namespace RespelledMembers

variable {members others : Members} {fields : List Model.Field}

/-- The type of an object cannot be spelled in another way. -/
theorem tag?_eq {model : Model} {tag : Text}
    (inside : RespelledMembers members others model.fields) (tagged : model.tag? = some tag) :
    others.tag? = members.tag? := by
  rw [Model.fields, tagged] at inside
  cases inside with
  | absent unwritten missing =>
      have other : others.lookup "type".toList = none := missing "type" List.mem_cons_self
      rw [Members.tag?, Members.tag?, other, ← unwritten]
      rfl
  | present written named found only respelled =>
      obtain rfl : _ = "type" := List.mem_singleton.1 named
      cases respelled with
      | same =>
          rw [Members.tag?, Members.tag?, found, ← written]
          rfl
      | node chosen => cases chosen

/-- A spelling is an object of the same model. -/
theorem model?_eq {shape : Shape} {model : Model} (chosen : shape.model? members = some model)
    (inside : RespelledMembers members others model.fields) : shape.model? others = some model := by
  cases shape with
  | node expected => exact chosen
  | oneOf models =>
      obtain ⟨tag, written, named⟩ := Option.bind_eq_some_iff.1 chosen
      have tagged : model.tag? = some tag := by simpa using List.find?_some named
      rw [Shape.model?, inside.tag?_eq tagged, written]
      exact named
  | text | integer | word | list => cases chosen

/-- An object in which members have the names under which they are written spells itself. -/
theorem refl (only : ∀ field ∈ fields, ∀ name ∈ field.aliases, members.lookup name.toList = none) :
    RespelledMembers members members fields := by
  induction fields with
  | nil => exact .nil
  | cons field fields ih =>
      obtain ⟨here, later⟩ := List.forall_mem_cons.1 only
      cases written : members.lookup field.name.toList with
      | none => exact .absent written (List.forall_mem_cons.2 ⟨written, here⟩) (ih later)
      | some json =>
          apply RespelledMembers.present written List.mem_cons_self written _ .same (ih later)
          intro word listed differs
          exact here word ((List.mem_cons.1 listed).resolve_left differs)

/-- A member is written under the given one of its names. -/
theorem spell {field : Model.Field} {json other : Json} (name : String)
    (written : members.lookup field.name.toList = some json)
    (found : others.lookup name.toList = some other) (named : name ∈ field.names)
    (only : ∀ word ∈ field.names, word ≠ name → (others.lookup word.toList).isNone = true)
    (respelled : Respelled field.shape json other) (rest : RespelledMembers members others fields) :
    RespelledMembers members others (field :: fields) :=
  .present written named found
    (fun word listed differs => Option.isNone_iff_eq_none.1 (only word listed differs))
    respelled rest

end RespelledMembers

theorem RespelledEach.refl {shape : Shape} (elements : List Json) :
    RespelledEach shape elements elements := by
  induction elements with
  | nil => exact .nil
  | cons json elements ih => exact .cons .same ih

/-! ## What is written -/

theorem Members.lookup_add_of_ne {members : Members} {name : String} {json : Json} {key : Text}
    (differs : key ≠ name.toList) : (members.add name json).lookup key = members.lookup key := by
  rw [add]
  split
  · rfl
  · rw [List.lookup_cons, beq_false_of_ne differs]

theorem Members.lookup_add_self {members : Members} {name : String} {json : Json}
    (filled : json.isNull = false) : (members.add name json).lookup name.toList = some json := by
  rw [add, filled]
  exact List.lookup_cons_self

namespace Value

/-- The members of an object are written under the names of declared members. -/
theorem lookup_membersWritten_eq_none {values : List Value} {fields : List Model.Field}
    {key : Text} (differs : ∀ field ∈ fields, key ≠ field.name.toList) :
    (membersWritten values fields).lookup key = none := by
  induction values generalizing fields with
  | nil => rfl
  | cons value values ih =>
      cases fields with
      | nil => rfl
      | cons field fields =>
          obtain ⟨here, later⟩ := List.forall_mem_cons.1 differs
          rw [membersWritten, Members.lookup_add_of_ne here]
          exact ih later

/-- What is written for the first of several members. -/
theorem lookup_membersWritten_cons {value : Value} {values : List Value} {field : Model.Field}
    {fields : List Model.Field} (distinct : ((field :: fields).map Model.Field.name).Nodup) :
    (membersWritten (value :: values) (field :: fields)).lookup field.name.toList =
      if value.written.isNull then none else some value.written := by
  rw [membersWritten]
  split
  case isTrue absent =>
    rw [Members.add, if_pos absent]
    apply lookup_membersWritten_eq_none
    intro other listed same
    exact (List.nodup_cons.1 distinct).1
      (List.mem_map.2 ⟨other, listed, String.toList_inj.1 same.symm⟩)
  case isFalse filled => exact Members.lookup_add_self (Bool.eq_false_iff.2 filled)

theorem eq_nothing_of_unwritten {value : Value}
    (unwritten : (if value.written.isNull then none else some value.written) = none) :
    value = .nothing := by
  cases value with
  | nothing => rfl
  | text | number | list | node => cases unwritten

theorem written_eq_of_lookup {value : Value} {json : Json}
    (found : (if value.written.isNull then none else some value.written) = some json) :
    value.written.isNull = false ∧ value.written = json := by
  split at found
  case isTrue => cases found
  case isFalse filled => exact ⟨Bool.eq_false_iff.2 filled, Option.some.inj found⟩

theorem membersFit_cons {value : Value} {values : List Value} {field : Model.Field}
    {fields : List Model.Field} (filled : value.written.isNull = false)
    (fit : MembersFit (value :: values) (field :: fields)) :
    value.Fits field.shape ∧ MembersFit values fields := by
  cases value with
  | nothing => cases filled
  | text | number | list | node => exact fit

/-- What is written for the members behind the first one. -/
theorem lookup_membersWritten_tail {value : Value} {values : List Value}
    {field other : Model.Field} {fields : List Model.Field}
    (distinct : ((field :: fields).map Model.Field.name).Nodup) (listed : other ∈ fields) :
    (membersWritten (value :: values) (field :: fields)).lookup other.name.toList =
      (membersWritten values fields).lookup other.name.toList := by
  rw [membersWritten, Members.lookup_add_of_ne]
  intro same
  exact (List.nodup_cons.1 distinct).1 (List.mem_map.2 ⟨other, listed, String.toList_inj.1 same⟩)

/-- The type of a node is written into its object. -/
theorem tag?_membersWritten {model : Model} {values : List Value} {tag : Text}
    (fits : MembersFit values model.fields) (tagged : model.tag? = some tag) :
    Members.tag? (membersWritten values model.fields) = some tag := by
  rw [Model.fields, tagged] at fits ⊢
  cases values with
  | nil => exact fits.elim
  | cons value values =>
      cases value with
      | nothing => cases fits.1
      | text word =>
          obtain rfl : word = tag := List.mem_singleton.1 fits.1
          exact congrArg (Option.bind · Json.text?) (Members.lookup_add_self rfl)
      | number | list => exact fits.1.elim
      | node => exact fits.1.1.elim

theorem model?_membersWritten {shape : Shape} {model : Model} {values : List Value}
    (admits : shape.Admits model) (fits : MembersFit values model.fields) :
    shape.model? (membersWritten values model.fields) = some model := by
  cases shape with
  | node expected => exact congrArg some admits.symm
  | oneOf models =>
      obtain ⟨tag, tagged, named⟩ := Option.bind_eq_some_iff.1 admits
      rw [Shape.model?, tag?_membersWritten fits tagged]
      exact named
  | text | integer | word | list => exact admits.elim

end Value

theorem Respelled.exists_elements {element : Shape} {least : Nat} {elements : List Json}
    {other : Json} (respelled : Respelled (.list element least) (.array elements) other) :
    ∃ others, other = .array others ∧ RespelledEach element elements others := by
  cases respelled with
  | same => exact ⟨elements, rfl, .refl elements⟩
  | list each => exact ⟨_, rfl, each⟩

theorem Respelled.exists_members {shape : Shape} {model : Model} {values : List Value}
    {other : Json} (chosen : shape.model? (Value.membersWritten values model.fields) = some model)
    (respelled : Respelled shape (.object (Value.membersWritten values model.fields)) other) :
    ∃ others, other = .object others ∧
      RespelledMembers (Value.membersWritten values model.fields) others model.fields := by
  cases respelled with
  | same =>
      refine ⟨_, rfl, .refl ?_⟩
      intro field declared word listed
      apply Value.lookup_membersWritten_eq_none
      intro other otherDeclared same
      exact model.alias_ne_name field declared word listed other otherDeclared
        (String.toList_inj.1 same)
  | node otherChosen inside =>
      cases Option.some.inj (chosen.symm.trans otherChosen)
      exact ⟨_, rfl, inside⟩

theorem RespelledEach.length_eq {shape : Shape} {elements others : List Json}
    (each : RespelledEach shape elements others) : others.length = elements.length := by
  induction elements generalizing others with
  | nil => cases each; rfl
  | cons json elements ih =>
      cases each with
      | cons first rest => exact congrArg (· + 1) (ih rest)

@[simp] theorem Value.length_eachWritten (values : List Value) :
    (eachWritten values).length = values.length := by
  induction values with
  | nil => rfl
  | cons value values ih => simp [eachWritten, ih]

mutual

/-- Every spelling of what is written for a value holds the value. -/
theorem Value.conforms_of_respelled (value : Value) {shape : Shape} {other : Json}
    (fits : value.Fits shape) (respelled : Respelled shape value.written other) :
    Conforms shape other value := by
  cases value with
  | nothing => cases shape <;> exact fits.elim
  | text content =>
      cases shape with
      | text => cases respelled with
        | same => exact .text
      | word words => cases respelled with
        | same => exact .word fits
      | integer | list | node | oneOf => exact fits.elim
  | number number =>
      cases shape with
      | integer least most => cases respelled with
        | same => exact .integer fits.1 fits.2
      | text | word | list | node | oneOf => exact fits.elim
  | list elements =>
      cases shape with
      | list element least =>
          obtain ⟨others, rfl, each⟩ := respelled.exists_elements
          have long : least ≤ others.length := by
            rw [each.length_eq, Value.length_eachWritten]
            exact fits.1
          exact .list long (Value.conformEach_of_respelled elements fits.2 each)
      | text | word | integer | node | oneOf => exact fits.elim
  | node model values =>
      obtain ⟨admits, inside⟩ : shape.Admits model ∧ Value.MembersFit values model.fields := fits
      have chosen := Value.model?_membersWritten admits inside
      obtain ⟨others, rfl, spelled⟩ := respelled.exists_members chosen
      apply Conforms.node (spelled.model?_eq chosen)
      exact Value.conformMembers_of_respelled values inside model.nodup_fieldNames
        (fun _ _ => rfl) spelled

theorem Value.conformEach_of_respelled (values : List Value) {shape : Shape}
    {others : List Json} (fits : Value.EachFits values shape)
    (each : RespelledEach shape (Value.eachWritten values) others) :
    ConformEach shape others values := by
  cases values with
  | nil =>
      cases each
      exact .nil
  | cons value values =>
      cases each with
      | cons first rest =>
          exact .cons (Value.conforms_of_respelled value fits.1 first)
            (Value.conformEach_of_respelled values fits.2 rest)

theorem Value.conformMembers_of_respelled (values : List Value) {fields : List Model.Field}
    {members others : Members} (fit : Value.MembersFit values fields)
    (distinct : (fields.map Model.Field.name).Nodup)
    (written : ∀ field ∈ fields, members.lookup field.name.toList =
      (Value.membersWritten values fields).lookup field.name.toList)
    (inside : RespelledMembers members others fields) :
    ConformMembers others fields values := by
  cases values with
  | nil =>
      cases fields with
      | nil => exact .nil
      | cons => exact fit.elim
  | cons value values =>
      cases fields with
      | nil => cases value <;> exact fit.elim
      | cons field fields =>
          have here := (written field List.mem_cons_self).trans
            (Value.lookup_membersWritten_cons distinct)
          have behind := fun other (listed : other ∈ fields) =>
            (written other (List.mem_cons_of_mem field listed)).trans
              (Value.lookup_membersWritten_tail distinct listed)
          have apart := (List.nodup_cons.1 distinct).2
          cases inside with
          | absent unwritten missing rest =>
              obtain rfl := Value.eq_nothing_of_unwritten (here.symm.trans unwritten)
              exact .absent (Members.find?_eq_none missing) fit.1
                (Value.conformMembers_of_respelled values fit.2 apart behind rest)
          | present found named foundOther only respelled rest =>
              obtain ⟨filled, rfl⟩ := Value.written_eq_of_lookup (here.symm.trans found)
              obtain ⟨fits, others⟩ := Value.membersFit_cons filled fit
              exact .given (Members.find?_eq_some named foundOther only)
                (Value.conforms_of_respelled value fits respelled)
                (Value.conformMembers_of_respelled values others apart behind rest)

end

end Mockup
