import Mockup.Control.Button
import Mockup.Control.Field
import Mockup.Inline.Reader
import Mockup.Item

/-!
# Reading a line

A line is tried against the rules below in a fixed order, and the first rule that reads it decides;
a line that no rule reads is text. The order is part of the notation: several fields on a line are
seen before a single field, and a row of buttons before a single button.
-/

namespace Mockup

/-- The rules for lines. `text` is what remains when no other rule applies. -/
inductive Rule where
  | header
  | fieldGroup
  | password
  | textarea
  | textInput
  | checkbox
  | radioGroup
  | dropdownOptions
  | dropdown
  | image
  | buttonRow
  | primaryButton
  | outlineButton
  | text
  deriving DecidableEq, Repr

namespace Rule

/-- The rules in the order in which they are tried, without the fallback. -/
def order : List Rule :=
  [.header, .fieldGroup, .password, .textarea, .textInput, .checkbox, .radioGroup,
    .dropdownOptions, .dropdown, .image, .buttonRow, .primaryButton, .outlineButton]

/-- The name by which a rule is reported. -/
def name : Rule → Text
  | .header => "header".toList
  | .fieldGroup => "field_group".toList
  | .password => "password".toList
  | .textarea => "textarea".toList
  | .textInput => "text_input".toList
  | .checkbox => "checkbox".toList
  | .radioGroup => "radiogroup".toList
  | .dropdownOptions => "dropdown_options".toList
  | .dropdown => "dropdown".toList
  | .image => "image".toList
  | .buttonRow => "button_row".toList
  | .primaryButton => "default_button".toList
  | .outlineButton => "outline_button".toList
  | .text => "text".toList

end Rule

namespace Item

/-- A heading: up to six hashes, blanks and the content. -/
def header? (line : Text) : Option Item := do
  let level ← HeadingLevel.ofNat? (line.takeWhile (· = '#')).length
  let content ← Text.afterBlanks? (Text.chomp (line.dropWhile (· = '#')))
  if Text.oneLine content then some (.header level (Inline.read content)) else none

/-- Two or more fields side by side. -/
def fieldGroup? (line : Text) : Option Item :=
  match Field.findAll line with
  | first :: second :: more =>
    some (.row ((first :: second :: more).map fun (label, marker) => Field.toControl label marker))
  | _ => none

/-- A radio group, which needs at least one option. -/
def radioGroup? (line : Text) : Option Item := do
  let (label, list) ← Field.listed? Field.radioMark line
  match Field.splitOptions list with
  | [] => none
  | first :: more => some (.radioGroup label first more)

/-- A drop-down list with its options. -/
def dropdownOptions? (line : Text) : Option Item := do
  let (label, list) ← Field.listed? Field.dropdownMark line
  some (.control (.dropdown label (some (Field.splitOptions list))))

/-- An image: its description in brackets and its source in parentheses. -/
def image? (line : Text) : Option Item := do
  let described ← Text.after? ['!', '['] line
  let (alt, behind) ← Text.spanTo? ']' described
  let located ← Text.after? ['('] behind
  let (src, rest) ← Text.upTo? ')' located
  if Text.isClosed [] rest then some (.image alt src) else none

/-- What a rule makes of a line, if it applies. Only a row of buttons can turn out unreadable. -/
def applyRule (rule : Rule) (line : Text) : Except Button.UnreadableGroup (Option Item) :=
  match rule with
  | .header => .ok (header? line)
  | .fieldGroup => .ok (fieldGroup? line)
  | .password =>
    .ok ((Field.bare? Field.passwordMark line).map fun label => .control (.input label .password))
  | .textarea =>
    .ok ((Field.bare? Field.textareaMark line).map fun label => .control (.textarea label))
  | .textInput =>
    .ok ((Field.bare? Field.textMark line).map fun label => .control (.input label .text))
  | .checkbox =>
    .ok ((Field.bare? Field.checkboxMark line).map fun label => .control (.checkbox label))
  | .radioGroup => .ok (radioGroup? line)
  | .dropdownOptions => .ok (dropdownOptions? line)
  | .dropdown =>
    .ok ((Field.bare? Field.dropdownMark line).map fun label => .control (.dropdown label none))
  | .image => .ok (image? line)
  | .buttonRow =>
    (Button.row? line).map fun buttons => buttons.map fun buttons => .row (buttons.map .button)
  | .primaryButton => .ok ((Button.primary? line).map fun button => .control (.button button))
  | .outlineButton => .ok ((Button.outline? line).map fun button => .control (.button button))
  | .text => .ok (some (.text (Inline.read line)))

/-- The first of the given rules that applies to a line, and the item it reads; the line is text
if none does. -/
def classifyWith : List Rule → Text → Except Button.UnreadableGroup (Rule × Item)
  | [], line => .ok (.text, .text (Inline.read line))
  | rule :: rules, line =>
    match applyRule rule line with
    | .error unreadable => .error unreadable
    | .ok (some item) => .ok (rule, item)
    | .ok none => classifyWith rules line

/-- The rule that decides a text, and the item it reads. -/
def classify (text : Text) : Except Button.UnreadableGroup (Rule × Item) :=
  classifyWith Rule.order text

/-- The rule that decides a line of a document, and the item it reads. Such a line holds no line
feed, and then every bracket pair of a button row can be read (`classify_ofLine`); the last case
only makes the function total. -/
def ofLine (line : Text) : Rule × Item :=
  match classify line with
  | .ok decided => decided
  | .error _ => (.text, .text (Inline.read line))

/-- Every line of a document is classified. -/
theorem classify_ofLine {line : Text} (single : Text.oneLine line = true) :
    classify line = .ok (ofLine line) := by
  have applies : ∀ rule, ∃ item, applyRule rule line = .ok item := by
    intro rule
    cases rule with
    | buttonRow =>
      obtain ⟨buttons, read⟩ := Button.row?_eq_ok single
      exact ⟨_, by rw [applyRule, read]; rfl⟩
    | _ => exact ⟨_, rfl⟩
  have classified : ∀ rules, ∃ decided, classifyWith rules line = .ok decided := by
    intro rules
    induction rules with
    | nil => exact ⟨_, rfl⟩
    | cons rule rules ih =>
      obtain ⟨item, applied⟩ := applies rule
      rw [classifyWith, applied]
      cases item with
      | some item => exact ⟨_, rfl⟩
      | none => exact ih
  obtain ⟨decided, equal⟩ := classified Rule.order
  rw [ofLine, classify, equal]

end Item

end Mockup
