import Mockup.Proofs.Draft.Fields
import Mockup.Proofs.Jsx.Properties
import Mockup.Proofs.Text.Slug

/-!
# Values of options

Each option of a drop-down field and of a radio group has a value, by which a form tells it from the
other options. The value is the slug of the text of the option and nothing else, so it keeps the
words of the text in basic Latin letters and digits. Options can be told apart by their values
exactly if they all have such words and no two have the same ones.
-/

namespace Mockup

open Jsx (Node fieldId)

/-- The values of options tell them apart: there is a value for each option, none is empty, and
options with different texts have different ones. -/
structure TellApart (options values : List Text) : Prop where
  length_eq : values.length = options.length
  filled : ∀ value ∈ values, value ≠ []
  different : ∀ entry ∈ options.zip values, ∀ other ∈ options.zip values,
    entry.1 ≠ other.1 → entry.2 ≠ other.2

/-- All options have words that slugs keep, and no two options have the same ones. -/
structure ApartInWords (options : List Text) : Prop where
  worded : ∀ option ∈ options, Text.slugWords option ≠ []
  different : ∀ option ∈ options, ∀ other ∈ options,
    Text.slugWords option = Text.slugWords other → option = other

variable {options : List Text}

theorem TellApart.apartInWords (apart : TellApart options (options.map Text.slug)) :
    ApartInWords options := by
  constructor
  · intro option member
    rw [Ne, ← Text.slug_eq_nil_iff]
    exact apart.filled _ (List.mem_map_of_mem member)
  · intro option member other otherMember sameWords
    by_contra differs
    have paired : ∀ option ∈ options,
        (option, Text.slug option) ∈ options.zip (options.map Text.slug) := by
      rw [← List.map_prod_left_eq_zip]
      exact fun _ => List.mem_map_of_mem
    exact apart.different _ (paired option member) _ (paired other otherMember) differs
      (Text.slug_eq_slug_iff.2 sameWords)

theorem ApartInWords.tellApart (apart : ApartInWords options) :
    TellApart options (options.map Text.slug) := by
  constructor
  · exact List.length_map _
  · intro value member
    obtain ⟨option, optionMember, rfl⟩ := List.mem_map.1 member
    rw [Ne, Text.slug_eq_nil_iff]
    exact apart.worded option optionMember
  · rw [← List.map_prod_left_eq_zip]
    intro entry member other otherMember differs sameSlug
    obtain ⟨option, optionMember, rfl⟩ := List.mem_map.1 member
    obtain ⟨text, textMember, rfl⟩ := List.mem_map.1 otherMember
    exact differs (apart.different option optionMember text textMember
      (Text.slug_eq_slug_iff.1 sameSlug))

theorem tellApart_slugs_iff : TellApart options (options.map Text.slug) ↔ ApartInWords options :=
  ⟨TellApart.apartInWords, ApartInWords.tellApart⟩

/-! ## Values in markup -/

/-- Markup that says one thing for each of a list of values, wherever the value stands. -/
theorem Jsx.Node.contentsOf_mapIdx_eq_map {α : Type} {name : String} {make : Nat → α → Node}
    {said : α → Text} (values : List α)
    (made : ∀ index value, (make index value).contents name = [said value]) :
    Node.contentsOf name (values.mapIdx make) = values.map said := by
  rw [Node.contentsOf_mapIdx_singleton values made]
  exact List.ext_getElem (by simp) fun _ _ _ => by simp

theorem Jsx.values_select (id : Text) (options : List Text) :
    (Jsx.select id options).contents "value" = options.map Text.slug := by
  have items : Node.contentsOf "value" (options.mapIdx fun i option =>
      Jsx.compact "SelectItem" [.key i, Jsx.property "value" (Text.slug option)]
        [.text option]) = options.map Text.slug :=
    Node.contentsOf_mapIdx_eq_map options fun _ _ => by simp
  simp [Jsx.select, items]

theorem Jsx.values_radioOption (group option : Text) (index : Nat) :
    (Jsx.radioOption group index option).contents "value" = [Text.slug option] := by
  simp [Jsx.radioOption]

theorem callable_none : Callable none := by
  rintro name ⟨⟩

variable (setter : Option Text) (index depth : Nat)

/-- The values in the text of a drop-down field. -/
theorem Control.values_dropdown (label : Text) (options : Option (List Text)) :
    Jsx.contentsInText "value" (Component.printModule
        (((Control.dropdown label options).toJsx setter index).print depth)) =
      (options.getD []).map Text.slug := by
  have worded : ((Control.dropdown label options).toJsx none index).Worded
      (Jsx.Known [.dropdown]) :=
    Control.worded_toJsx callable_none _ List.mem_cons_self
  have drawn : (Control.dropdown label options).toJsx setter index =
      (Control.dropdown label options).toJsx none index := rfl
  rw [drawn, Jsx.contentsInText_print Jsx.isIdentifier_of_known _ worded]
  simp [Control.toJsx, Jsx.values_select]

/-- The values in the text of a radio group. -/
theorem Item.values_radioGroup (label first : Text) (more : List Text) :
    Jsx.contentsInText "value" (Component.printModule
        (((Item.radioGroup label first more).toJsx setter index).print depth)) =
      (first :: more).map Text.slug := by
  have worded : ((Item.radioGroup label first more).toJsx none index).Worded
      (Jsx.Known [.radioGroup]) :=
    Item.worded_toJsx callable_none _ (List.Subset.refl _)
  have drawn : (Item.radioGroup label first more).toJsx setter index =
      (Item.radioGroup label first more).toJsx none index := rfl
  have options : Node.contentsOf "value" ((first :: more).mapIdx
      (Jsx.radioOption (fieldId "radio" label index))) = (first :: more).map Text.slug :=
    Node.contentsOf_mapIdx_eq_map (first :: more) fun number option =>
      Jsx.values_radioOption (fieldId "radio" label index) option number
  rw [drawn, Jsx.contentsInText_print Jsx.isIdentifier_of_known _ worded, ← options]
  simp [Item.toJsx]

/-- The values in the text of a drop-down field and in that of a radio group are the slugs of the
texts of their options, in the same order. They tell the options apart exactly if these are apart in
words. -/
theorem option_values (label : Text) :
    (∀ options : Option (List Text),
      let values := Jsx.contentsInText "value" (Component.printModule
        (((Control.dropdown label options).toJsx setter index).print depth))
      values = (options.getD []).map Text.slug ∧
        (TellApart (options.getD []) values ↔ ApartInWords (options.getD []))) ∧
      ∀ (first : Text) (more : List Text),
        let values := Jsx.contentsInText "value" (Component.printModule
          (((Item.radioGroup label first more).toJsx setter index).print depth))
        values = (first :: more).map Text.slug ∧
          (TellApart (first :: more) values ↔ ApartInWords (first :: more)) := by
  refine ⟨fun options => ?_, fun first more => ?_⟩
  · intro values
    have slugs : values = (options.getD []).map Text.slug :=
      Control.values_dropdown setter index depth label options
    rw [slugs]
    exact ⟨rfl, tellApart_slugs_iff⟩
  · intro values
    have slugs : values = (first :: more).map Text.slug :=
      Item.values_radioGroup setter index depth label first more
    rw [slugs]
    exact ⟨rfl, tellApart_slugs_iff⟩

/-- A drop-down field with two options that differ in characters which slugs leave out. -/
def languages : DraftField :=
  { label := ⟨⟨"Lang".toList, by decide, by decide, by decide⟩, by decide⟩
    space := ⟨⟨" ".toList, by decide, by decide⟩, by decide⟩
    kind := .listed ⟨" ".toList, by decide, by decide⟩
      ⟨[⟨⟨⟨"C".toList, by decide, by decide, by decide⟩, by decide⟩,
          by decide, by decide, by decide⟩,
        ⟨⟨⟨"C++".toList, by decide, by decide, by decide⟩, by decide⟩,
          by decide, by decide, by decide⟩], by simp⟩ }

/-- Options that a line was read with may share their value. -/
theorem option_values_languages :
    ¬∀ (line : Text) (rule : Rule) (label : Text) (options : List Text),
      Item.classify line = .ok (rule, .control (.dropdown label (some options))) →
      TellApart options (Jsx.contentsInText "value" (Component.printModule
        (((Control.dropdown label (some options)).toJsx none 0).print 3))) := by
  intro apart
  have read : Item.classify "Lang __> [C, C++]".toList = .ok (.dropdownOptions,
      .control (.dropdown "Lang".toList (some ["C".toList, "C++".toList]))) :=
    languages.classify_source (by decide)
  have shared : ["C".toList, "C++".toList].map Text.slug = ["c".toList, "c".toList] := by decide
  have different := (apart _ _ _ _ read).different ("C".toList, "c".toList)
  rw [Control.values_dropdown, Option.getD_some, shared] at different
  exact different (by decide) ("C++".toList, "c".toList) (by decide) (by decide) rfl

end Mockup
