import Mockup.Proofs.Draft
import Mockup.Proofs.Fields

/-!
# Lines of fields

A field is written as its label, blanks and its marker; several fields stand on one line with blanks
between them. This module lays out such lines and shows that they are read back: a line with one
field is that field, and a line with several is a row of them. Markers start alike, and an option
list may follow one of them, but a label holds no two underscores in a row, so the next marker of
the line is always the one that was written.
-/

namespace Mockup

namespace Draft

/-- The label of a field: a caption in which no marker can stand. -/
structure Label extends Caption where
  unmarked : Field.Unmarked text

/-- An option of a drop-down list. -/
structure Choice extends Label where
  commaFree : ',' ∉ text
  openFree : '[' ∉ text
  closeFree : ']' ∉ text

/-- The options of a drop-down list, of which there is at least one. -/
structure Choices where
  options : List Choice
  nonempty : options ≠ []

/-- Blanks on a line, or nothing. -/
structure Gap where
  text : Text
  blank : Text.allBlank text = true
  single : '\n' ∉ text

/-- At least one blank on a line. -/
structure Space extends Gap where
  nonempty : text ≠ []

/-- What a field is, with everything that its marker says. -/
inductive FieldKind where
  | text
  | password
  | textarea
  | checkbox
  | dropdown
  /-- A drop-down list with its options, which may stand behind a gap. -/
  | listed (gap : Gap) (choices : Choices)

end Draft

/-- A field as it is laid out. -/
structure DraftField where
  label : Draft.Label
  space : Draft.Space
  kind : Draft.FieldKind

namespace Draft

/-- The texts of the options. -/
def Choices.texts (choices : Choices) : List Text :=
  choices.options.map fun choice => choice.text

/-- The options as they stand between the brackets. -/
def Choices.list (choices : Choices) : Text :=
  Text.joined ", ".toList choices.texts

/-- The marker of a field, with its options. -/
def FieldKind.marker : FieldKind → Text
  | .text => Field.textMark
  | .password => Field.passwordMark
  | .textarea => Field.textareaMark
  | .checkbox => Field.checkboxMark
  | .dropdown => Field.dropdownMark
  | .listed gap choices => Field.dropdownMark ++ (gap.text ++ '[' :: (choices.list ++ [']']))

/-- The rule that reads a line with this field alone. -/
def FieldKind.rule : FieldKind → Rule
  | .text => .textInput
  | .password => .password
  | .textarea => .textarea
  | .checkbox => .checkbox
  | .dropdown => .dropdown
  | .listed .. => .dropdownOptions

end Draft

namespace DraftField

/-- The notation of a field. -/
def source (field : DraftField) : Text :=
  field.label.text ++ (field.space.text ++ field.kind.marker)

/-- The line that fields are written on, each further one behind blanks. -/
def line (first : DraftField) (more : List (Draft.Space × DraftField)) : Text :=
  first.source ++ more.flatMap fun (space, field) => space.text ++ field.source

/-- The control that a field stands for. -/
def control (field : DraftField) : Control :=
  match field.kind with
  | .text => .input field.label.text .text
  | .password => .input field.label.text .password
  | .textarea => .textarea field.label.text
  | .checkbox => .checkbox field.label.text
  | .dropdown => .dropdown field.label.text none
  | .listed _ choices => .dropdown field.label.text (some choices.texts)

/-- What may follow a field: behind a drop-down list without options, a label that starts with a
bracket would be taken for the options. -/
def MayPrecede (field next : DraftField) : Prop :=
  field.kind = .dropdown → next.label.text.head? ≠ some '['

end DraftField

/-! ## Options -/

namespace Draft

/-- What may stand between the brackets behind a marker. -/
structure Bracketable (list : Text) : Prop where
  nonempty : list ≠ []
  single : '\n' ∉ list
  openFree : '[' ∉ list
  closeFree : ']' ∉ list
  unmarked : Field.Unmarked list

theorem Choices.bracketable_list (choices : Choices) : Bracketable choices.list := by
  apply Text.joined_induction
  · simpa [texts] using choices.nonempty
  · intro text member
    obtain ⟨choice, -, rfl⟩ := List.mem_map.1 member
    exact ⟨choice.nonempty, choice.single, choice.openFree, choice.closeFree, choice.unmarked⟩
  · intro front rest first last
    constructor
    · simp [first.nonempty]
    · simp [first.single, last.single]
    · simp [first.openFree, last.openFree]
    · simp [first.closeFree, last.closeFree]
    · rw [List.append_assoc]
      apply (Field.unmarked_append_cons_iff (by decide)).2
      exact ⟨first.unmarked, (Field.unmarked_cons_iff (by decide)).2 last.unmarked⟩

/-- The options are found again. -/
theorem Choices.splitOptions_list (choices : Choices) :
    Field.splitOptions choices.list = choices.texts := by
  apply Text.entries_joined
  · decide
  · decide
  all_goals
    intro text member
    obtain ⟨choice, -, rfl⟩ := List.mem_map.1 member
  · exact choice.trimmed
  · exact choice.nonempty
  · exact choice.commaFree

end Draft

theorem Draft.Gap.not_mem (gap : Draft.Gap) {character : Char}
    (visible : Text.isBlank character = false) : character ∉ gap.text :=
  Text.not_mem_of_allBlank gap.blank visible

theorem Draft.Space.exists_cons (space : Draft.Space) :
    ∃ blank others, space.text = blank :: others ∧ Text.isBlank blank = true := by
  obtain ⟨blank, others, shape⟩ := List.exists_cons_of_ne_nil space.nonempty
  refine ⟨blank, others, shape, ?_⟩
  exact List.all_eq_true.1 space.blank blank (shape ▸ List.mem_cons_self)

/-- Dropping blanks drops a gap and nothing else. -/
theorem Draft.Gap.trimStart_append (gap : Draft.Gap) {text : Text}
    (visible : ∀ character ∈ text.head?, Text.isBlank character = false) :
    Text.trimStart (gap.text ++ text) = text := by
  rw [Text.trimStart_blank_append gap.blank, Text.trimStart_eq_self visible]

namespace Field

/-- What may stand in front of the blanks and the marker of a field. -/
structure IsLabel (label : Text) : Prop where
  nonempty : label ≠ []
  ended : ∀ character ∈ label.getLast?, Text.isBlank character = false
  unmarked : Unmarked label

variable {α : Type} {read : Text → Option α} {label part tail : Text} {found : α}

theorem IsLabel.blank_append (isLabel : IsLabel label) (lead : Draft.Gap) :
    IsLabel (lead.text ++ label) := by
  constructor
  · simp [isLabel.nonempty]
  · rw [List.getLast?_append_of_ne_nil _ isLabel.nonempty]
    exact isLabel.ended
  · exact (unmarked_append_iff (lead.not_mem (by decide))).2 isLabel.unmarked

/-- No marker is seen where a part of the label is ahead: a marker holds no blank, so it would have
to stand in the label. -/
theorem IsLabel.behindBlanks?_eq_none (isLabel : IsLabel label) (reads : ReadsMark read)
    (space : Draft.Space) (within : part <:+ label) (ahead : part ≠ []) :
    Text.behindBlanks? read (part ++ (space.text ++ tail)) = none := by
  cases seen : Text.behindBlanks? read (part ++ (space.text ++ tail)) with
  | none => rfl
  | some found =>
      obtain ⟨core, -, inside, trimmed⟩ :=
        Text.exists_trimStart_append (space.text ++ tail) isLabel.ended within ahead
      have success := Text.read_trimStart_of_behindBlanks? seen
      rw [trimmed] at success
      obtain ⟨mark, known, led⟩ := reads success
      obtain ⟨blank, others, shape, hidden⟩ := space.exists_cons
      rw [shape, List.cons_append,
        Text.prefix_append_cons_iff (not_mem_of_isBlank known hidden)] at led
      have marked := led.isInfix.trans (inside.trans within).isInfix
      exact absurd ((shape_of_mem_marks known).1.trans marked) isLabel.unmarked

/-- A label is cut off in front of the blanks and the marker behind it. -/
theorem IsLabel.until?_eq_some (isLabel : IsLabel label) (reads : ReadsMark read)
    (space : Draft.Space) (visible : ∀ character ∈ tail.head?, Text.isBlank character = false)
    (success : read tail = some found) :
    Text.until? (Text.behindBlanks? read) (label ++ (space.text ++ tail)) =
      some (label, found) := by
  apply Text.until?_append isLabel.nonempty
  · intro part within ahead
    exact isLabel.behindBlanks?_eq_none reads space within ahead
  · rw [Text.behindBlanks?_append space.blank space.nonempty visible]
    exact success

end Field

namespace Draft

theorem Label.isLabel (label : Label) : Field.IsLabel label.text :=
  ⟨label.nonempty, (Text.trim_eq_self_iff.1 label.trimmed).2, label.unmarked⟩

/-- The options in a marker, with the gap in front of them. -/
theorem isOptionList (gap : Gap) {list : Text} (bracketable : Bracketable list) :
    Field.IsOptionList (gap.text ++ '[' :: (list ++ [']'])) :=
  ⟨gap.text, list, by simp, gap.blank, bracketable.nonempty, bracketable.closeFree⟩

/-- No options stand where no bracket follows. -/
theorem not_prefix_of_isOptionList {options rest : Text} (bracketed : Field.IsOptionList options)
    (plain : (Text.trimStart rest).head? ≠ some '[') : ¬ options <+: rest := by
  obtain ⟨blanks, list, rfl, blank, -⟩ := bracketed
  rintro ⟨behind, rfl⟩
  have bracket : Text.isBlank '[' = false := by decide
  apply plain
  rw [List.append_assoc, List.append_assoc, Text.trimStart_blank_append blank,
    Text.trimStart_eq_self (by simpa using bracket)]
  rfl

namespace FieldKind

theorem isMarker (kind : FieldKind) : Field.IsMarker kind.marker := by
  cases kind with
  | text | password | textarea | checkbox | dropdown => exact .bare (by decide)
  | listed gap choices => exact .listed (isOptionList gap choices.bracketable_list)

theorem marker_ne_nil (kind : FieldKind) : kind.marker ≠ [] := by
  cases kind <;> exact nofun

/-- A marker is read as a whole, and no more than it. -/
theorem readMarker?_marker_append (kind : FieldKind) {rest : Text}
    (plain : kind = .dropdown → (Text.trimStart rest).head? ≠ some '[') :
    Field.readMarker? (kind.marker ++ rest) = some (kind.marker, rest) := by
  refine Field.readMarker?_eq_some_iff.2 ⟨rfl, kind.isMarker, ?_⟩
  cases kind with
  | text | password | textarea | checkbox => exact nofun
  | dropdown => exact fun _ _ bracketed => not_prefix_of_isOptionList bracketed (plain rfl)
  | listed gap choices =>
      exact Field.takesOptions_listed (isOptionList gap choices.bracketable_list)

/-- The option list is found in its marker again. -/
theorem bracketed?_append {lead list : Text} (free : '[' ∉ lead) (bracketable : Bracketable list) :
    Field.bracketed? (lead ++ '[' :: (list ++ [']'])) = some list := by
  induction lead with
  | nil =>
      have inside : Text.upTo? ']' (list ++ [']']) = some (list, []) :=
        Text.upTo?_eq_some_iff.2 ⟨⟨rfl, bracketable.closeFree⟩, bracketable.nonempty⟩
      rw [List.nil_append, Field.bracketed?, if_pos rfl, inside]
  | cons character lead ih =>
      obtain ⟨differs, free⟩ := List.ne_and_not_mem_of_not_mem_cons free
      rw [List.cons_append, Field.bracketed?, if_neg differs.symm]
      exact ih free

end FieldKind

end Draft

/-- A label and a marker stand for the control of the field. -/
theorem DraftField.toControl_append (field : DraftField) {lead : Text}
    (blank : Text.allBlank lead = true) :
    Field.toControl (lead ++ field.label.text) field.kind.marker = field.control := by
  have trimmed : Text.trim (lead ++ field.label.text) = field.label.text := by
    rw [Text.trim_blank_append blank, field.label.trimmed]
  rw [Field.toControl, trimmed, control]
  cases field.kind with
  | text | password | textarea | checkbox | dropdown => rfl
  | listed gap choices =>
      have free : '[' ∉ Field.dropdownMark ++ gap.text :=
        List.not_mem_append (by decide) (gap.not_mem (by decide))
      have inside : Field.bracketed? (Draft.FieldKind.listed gap choices).marker =
          some choices.list := by
        rw [Draft.FieldKind.marker, ← List.append_assoc]
        exact Draft.FieldKind.bracketed?_append free choices.bracketable_list
      have led :
          (Text.after? Field.dropdownMark (Draft.FieldKind.listed gap choices).marker).isSome =
            true := rfl
      rw [if_neg nofun, if_neg nofun, if_neg nofun, if_pos led, inside, Option.map_some,
        choices.splitOptions_list]

/-! ## All fields of a line -/

namespace DraftField

/-- The next field of a line is the one that was written. -/
theorem next?_append (field : DraftField) (lead : Draft.Gap) {rest : Text}
    (plain : field.kind = .dropdown → (Text.trimStart rest).head? ≠ some '[') :
    Field.next? (lead.text ++ (field.source ++ rest)) =
      some (lead.text ++ field.label.text, field.kind.marker, rest) := by
  have shape : lead.text ++ (field.source ++ rest) =
      (lead.text ++ field.label.text) ++ (field.space.text ++ (field.kind.marker ++ rest)) := by
    simp [source]
  rw [Field.next?, shape]
  exact (field.label.isLabel.blank_append lead).until?_eq_some Field.readsMark_readMarker?
    field.space (field.kind.isMarker.visible rest) (field.kind.readMarker?_marker_append plain)

theorem line_cons (first next : DraftField) (space : Draft.Space)
    (more : List (Draft.Space × DraftField)) :
    line first ((space, next) :: more) = first.source ++ (space.text ++ line next more) := by
  simp [line]

theorem head?_line (first : DraftField) (more : List (Draft.Space × DraftField)) :
    (line first more).head? = first.label.text.head? := by
  rw [line, source, List.append_assoc, List.head?_append_of_ne_nil _ first.label.nonempty]

/-- Behind the blanks in front of a field stands its label. -/
theorem head?_trimStart_line (space : Draft.Space) (field : DraftField)
    (more : List (Draft.Space × DraftField)) :
    (Text.trimStart (space.text ++ line field more)).head? = field.label.text.head? := by
  have visible : ∀ character ∈ (line field more).head?, Text.isBlank character = false := by
    rw [head?_line]
    exact (Text.trim_eq_self_iff.1 field.label.trimmed).1
  rw [space.trimStart_append visible, head?_line]

/-- All fields of a line are found, each with its label and its marker. -/
theorem findAll_line (first : DraftField) (more : List (Draft.Space × DraftField))
    (lead : Draft.Gap) (apart : (first :: more.map Prod.snd).IsChain MayPrecede) :
    Field.findAll (lead.text ++ line first more) =
      (lead.text ++ first.label.text, first.kind.marker) ::
        more.map fun (space, field) => (space.text ++ field.label.text, field.kind.marker) := by
  induction more generalizing first lead with
  | nil =>
      have ended : first.kind = .dropdown → (Text.trimStart []).head? ≠ some '[' := by
        simp [Text.trimStart]
      have found := first.next?_append lead ended
      rw [line, List.flatMap_nil, Field.findAll_eq_cons found, Field.findAll_eq_nil rfl]
      rfl
  | cons behind more ih =>
      obtain ⟨space, next⟩ := behind
      obtain ⟨neighbour, later⟩ := List.isChain_cons_cons.1 apart
      have plain : first.kind = .dropdown →
          (Text.trimStart (space.text ++ line next more)).head? ≠ some '[' := by
        rw [head?_trimStart_line]
        exact neighbour
      rw [line_cons, Field.findAll_eq_cons (first.next?_append lead plain),
        ih next space.toGap later]
      rfl

/-- The fields that are found stand for the controls that were written. -/
theorem map_toControl_findAll_line (first : DraftField) (more : List (Draft.Space × DraftField))
    (apart : (first :: more.map Prod.snd).IsChain MayPrecede) :
    (Field.findAll (line first more)).map (fun (label, marker) => Field.toControl label marker) =
      (first :: more.map Prod.snd).map control := by
  have found := findAll_line first more ⟨[], rfl, List.not_mem_nil⟩ apart
  rw [List.nil_append] at found
  rw [found, List.map_cons, List.map_map, List.map_cons, List.map_map]
  congr 1
  · exact first.toControl_append rfl
  · apply List.map_congr_left
    rintro ⟨space, field⟩ -
    exact field.toControl_append space.blank

/-- A reader that accepts the marker finds the label in front of it. -/
theorem labelled?_source (field : DraftField) {α : Type} {read : Text → Option α} {found : α}
    (reads : Field.ReadsMark read) (success : read field.kind.marker = some found) :
    Field.labelled? read field.source = some (field.label.text, found) := by
  have visible := field.kind.isMarker.visible []
  rw [List.append_nil] at visible
  have cut := field.label.isLabel.until?_eq_some reads field.space visible success
  rw [Field.labelled?, source, cut]
  simp [Text.oneLine_iff.2 field.label.single, field.label.trimmed]

theorem bare?_source (field : DraftField) (known : field.kind.marker ∈ Field.marks) :
    Field.bare? field.kind.marker field.source = some field.label.text := by
  have closed : Field.readBare? field.kind.marker field.kind.marker = some () := by
    simp [Field.readBare?, Text.isClosed]
  rw [Field.bare?, field.labelled?_source (Field.readsMark_readBare? known) closed]
  rfl

theorem oneLine_source (field : DraftField) : '\n' ∉ field.source := by
  have marker : '\n' ∉ field.kind.marker := by
    cases field.kind with
    | text | password | textarea | checkbox | dropdown => decide
    | listed gap choices =>
        have list := choices.bracketable_list.single
        simp [Draft.FieldKind.marker, Field.dropdownMark, gap.single, list]
  simp [source, field.label.single, field.space.single, marker]

theorem getLast?_source (field : DraftField) :
    field.source.getLast? = field.kind.marker.getLast? := by
  rw [source, ← List.append_assoc, List.getLast?_append_of_ne_nil _ field.kind.marker_ne_nil]

/-- A line that does not end like the given marker is no field with it. -/
theorem bare?_source_eq_none (field : DraftField) {mark : Text} (nonempty : mark ≠ [])
    (differs : mark.getLast? ≠ field.kind.marker.getLast?) :
    Field.bare? mark field.source = none := by
  apply Field.bare?_eq_none field.oneLine_source
  rintro ⟨front, whole⟩
  apply differs
  rw [← field.getLast?_source, ← whole, List.getLast?_append_of_ne_nil _ nonempty]

theorem listed?_source_eq_none (field : DraftField) (mark : Text)
    (differs : field.kind.marker.getLast? ≠ some ']') :
    Field.listed? mark field.source = none := by
  apply Field.listed?_eq_none_of_unended field.oneLine_source
  rintro ⟨front, whole⟩
  apply differs
  rw [← field.getLast?_source, ← whole, List.getLast?_concat]

/-- The option list of a field is what stands behind its marker. -/
theorem listed?_source {field : DraftField} {gap : Draft.Gap} {choices : Draft.Choices}
    (shape : field.kind = .listed gap choices) :
    Field.listed? Field.dropdownMark field.source = some (field.label.text, choices.list) := by
  have list := choices.bracketable_list
  have bracket : Text.isBlank '[' = false := by decide
  have trimmed : Text.trimStart (gap.text ++ '[' :: (choices.list ++ [']'])) =
      '[' :: (choices.list ++ [']']) :=
    gap.trimStart_append (by simpa using bracket)
  have single : '\n' ∉ choices.list ++ [']'] := by simp [list.single]
  have closed : Text.before? [']'] (choices.list ++ [']']) = some choices.list :=
    Text.before?_eq_some_iff.2 rfl
  have read : Field.readListed? Field.dropdownMark field.kind.marker = some choices.list := by
    rw [shape, Draft.FieldKind.marker, Field.readListed?, Text.after?_append]
    simp [trimmed, Text.after?, Text.chomp_of_not_mem single, closed, list.nonempty,
      Text.oneLine_iff.2 list.single]
  exact field.labelled?_source (Field.readsMark_readListed? (by decide)) read

/-- A drop-down list with options is no radio group, although both end with a list in brackets: the
angle of the marker cuts the line in two, and the radio marker is in neither part. -/
theorem radioMark_not_infix_source {field : DraftField} {gap : Draft.Gap} {choices : Draft.Choices}
    (shape : field.kind = .listed gap choices) : ¬Field.radioMark <:+: field.source := by
  have list := choices.bracketable_list
  have stem : "__".toList <:+: Field.radioMark := by decide
  have cut : field.source = (field.label.text ++ (field.space.text ++ "__".toList)) ++
      '>' :: (gap.text ++ '[' :: (choices.list ++ [']'])) := by
    simp [source, shape, Draft.FieldKind.marker, Field.dropdownMark]
  have front : ¬Field.radioMark <:+: field.label.text ++ (field.space.text ++ "__".toList) := by
    obtain ⟨blank, others, spaced, hidden⟩ := field.space.exists_cons
    have free : blank ∉ Field.radioMark := Field.not_mem_of_isBlank (by decide) hidden
    have parenthesis : '(' ∉ others := by
      have absent := field.space.not_mem (by decide : Text.isBlank '(' = false)
      rw [spaced] at absent
      exact List.not_mem_of_not_mem_cons absent
    rw [spaced, List.cons_append, Text.infix_append_cons_iff free, not_or]
    constructor
    · exact fun marked => field.label.unmarked (stem.trans marked)
    · intro marked
      have member : '(' ∈ others ++ "__".toList := marked.subset (by decide)
      simp [parenthesis] at member
  have back : Field.Unmarked (gap.text ++ '[' :: (choices.list ++ [']'])) := by
    rw [Field.unmarked_append_iff (gap.not_mem (by decide)), Field.unmarked_cons_iff (by decide),
      Field.unmarked_append_cons_iff (by decide)]
    exact ⟨list.unmarked, Field.unmarked_of_not_mem List.not_mem_nil⟩
  rw [cut, Text.infix_append_cons_iff (by decide), not_or]
  exact ⟨front, fun marked => back (stem.trans marked)⟩

/-- Nor is it a check box, whose brackets are empty. -/
theorem checkboxMark_not_suffix_source {field : DraftField} {gap : Draft.Gap}
    {choices : Draft.Choices} (shape : field.kind = .listed gap choices) :
    ¬Field.checkboxMark <:+ field.source := by
  have list := choices.bracketable_list
  rintro ⟨front, whole⟩
  have cut : front ++ "__[".toList ++ [']'] =
      field.label.text ++ (field.space.text ++ (Field.dropdownMark ++ (gap.text ++ ['[']))) ++
        choices.list ++ [']'] := by
    simpa [source, shape, Draft.FieldKind.marker, Field.checkboxMark] using whole
  have same := List.append_cancel_right cut
  have last : choices.list.getLast? = some '[' := by
    rw [← List.getLast?_append_of_ne_nil _ list.nonempty, ← same]
    simp
  exact list.openFree (List.mem_of_getLast? last)

/-- The only rule for single fields that reads the field is its own, since the markers end with
different characters. -/
theorem classify_source (field : DraftField) (start : field.label.text.head? ≠ some '#') :
    Item.classify field.source = .ok (field.kind.rule, .control field.control) := by
  have header : Item.header? field.source = none := by
    apply Item.header?_eq_none
    rwa [source, List.head?_append_of_ne_nil _ field.label.nonempty]
  have group : Item.fieldGroup? field.source = none := by
    have found := findAll_line field [] ⟨[], rfl, List.not_mem_nil⟩ (.singleton field)
    rw [line, List.flatMap_nil, List.append_nil, List.nil_append] at found
    rw [Item.fieldGroup?, found]
    rfl
  have unread := @field.bare?_source_eq_none
  have unlisted := field.listed?_source_eq_none
  cases shape : field.kind with
  | text | password | textarea | checkbox | dropdown =>
      have read := field.bare?_source (by rw [shape]; decide)
      rw [shape] at unread unlisted read
      rw [Draft.FieldKind.marker] at read
      apply Item.classify_eq_ok
      · decide
      · simp (disch := decide) [Draft.FieldKind.rule, Rule.order, Item.applyRule, header, group,
          unread, Item.radioGroup?, Item.dropdownOptions?, unlisted]
      · simp [Draft.FieldKind.rule, Item.applyRule, read, control, shape]
  | listed gap choices =>
      have ended : (Draft.FieldKind.listed gap choices).marker.getLast? = some ']' := by
        rw [Draft.FieldKind.marker, ← List.append_assoc, ← List.cons_append, ← List.append_assoc]
        exact List.getLast?_concat
      have notCheckbox :=
        Field.bare?_eq_none field.oneLine_source (checkboxMark_not_suffix_source shape)
      have notRadio := Field.listed?_eq_none_of_absent (radioMark_not_infix_source shape)
      have read := listed?_source shape
      rw [shape, ended] at unread
      rw [Draft.FieldKind.rule]
      apply Item.classify_eq_ok
      · decide
      · simp (disch := decide) [Rule.order, Item.applyRule, header, group, unread, notCheckbox,
          Item.radioGroup?, notRadio]
      · simp [Item.applyRule, Item.dropdownOptions?, read, control, shape,
          choices.splitOptions_list]

/-- A line of fields is read back: a single field is itself, and several are a row of exactly these
fields in their order. -/
theorem classify_line (first : DraftField) (more : List (Draft.Space × DraftField))
    (start : first.label.text.head? ≠ some '#')
    (apart : (first :: more.map Prod.snd).IsChain MayPrecede) :
    Item.classify (line first more) = .ok (match more with
      | [] => (first.kind.rule, .control first.control)
      | _ => (.fieldGroup, .row ((first :: more.map Prod.snd).map control))) := by
  cases more with
  | nil =>
      rw [line, List.flatMap_nil, List.append_nil]
      exact first.classify_source start
  | cons behind more =>
      have header : Item.header? (line first (behind :: more)) = none := by
        apply Item.header?_eq_none
        rwa [head?_line]
      have controls := map_toControl_findAll_line first (behind :: more) apart
      have several : 2 ≤ (Field.findAll (line first (behind :: more))).length := by
        have sameLength := congrArg List.length controls
        simp at sameLength
        omega
      apply Item.classify_eq_ok
      · decide
      · simp [Rule.order, Item.applyRule, header]
      · rw [Item.applyRule, Item.fieldGroup?_eq_some several, controls]

/-- A drop-down list without options, one with two options, and a text area. -/
def sample : DraftField × List (Draft.Space × DraftField) :=
  let space : Draft.Space := ⟨⟨" \t".toList, by decide, by decide⟩, by decide⟩
  (⟨⟨⟨"a_ [x".toList, by decide, by decide, by decide⟩, by decide⟩, space, .dropdown⟩,
    [(space, ⟨⟨⟨"|b".toList, by decide, by decide, by decide⟩, by decide⟩, space,
      .listed ⟨[], rfl, by decide⟩
        ⟨[⟨⟨⟨"c d".toList, by decide, by decide, by decide⟩, by decide⟩,
            by decide, by decide, by decide⟩,
          ⟨⟨⟨"_".toList, by decide, by decide, by decide⟩, by decide⟩,
            by decide, by decide, by decide⟩], by simp⟩⟩),
    (space, ⟨⟨⟨"[f".toList, by decide, by decide, by decide⟩, by decide⟩, space, .textarea⟩)])

/-- Labels may hold brackets, bars and single underscores; only behind a list without options must
a label not start with a bracket. -/
theorem classify_line_sample :
    sample.1.label.text.head? ≠ some '#' ∧
      (sample.1 :: sample.2.map Prod.snd).IsChain MayPrecede ∧
      Item.classify "a_ [x \t__> \t|b \t__>[c d, _] \t[f \t|___|".toList =
        .ok (.fieldGroup, .row [.dropdown "a_ [x".toList none,
          .dropdown "|b".toList (some ["c d".toList, "_".toList]), .textarea "[f".toList]) := by
  have start : sample.1.label.text.head? ≠ some '#' := by decide
  have apart : (sample.1 :: sample.2.map Prod.snd).IsChain MayPrecede :=
    .cons_cons (fun _ => by decide) (.cons_cons nofun (.singleton _))
  exact ⟨start, apart, classify_line sample.1 sample.2 start apart⟩

end DraftField

end Mockup
