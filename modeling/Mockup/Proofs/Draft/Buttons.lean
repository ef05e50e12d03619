import Mockup.Proofs.Buttons
import Mockup.Proofs.Draft.Fields

/-!
# Lines of buttons

A button is written in brackets: its label, in parentheses if it is a primary one, then an arrow and
the screen it leads to, then a bar and its style classes. Buttons without classes can stand side by
side. This module lays out such lines and shows that they are read back.
-/

namespace Mockup

namespace Draft

/-- What is written on a button. -/
structure ButtonLabel extends Label where
  openFree : '[' ∉ text
  closeFree : ']' ∉ text
  barFree : '|' ∉ text
  openingFree : '(' ∉ text
  closingFree : ')' ∉ text
  arrowFree : ¬Button.arrow <:+: text

/-- The screen that a button leads to. -/
structure ButtonTarget extends ScreenName where
  openFree : '[' ∉ text
  barFree : '|' ∉ text
  unmarked : Field.Unmarked text

/-- The style classes of a button. -/
structure ButtonStyle extends ClassList where
  openFree : '[' ∉ text
  unmarked : Field.Unmarked text

end Draft

/-- A button as it is laid out, without its style classes. -/
structure DraftButton where
  label : Draft.ButtonLabel
  variant : ButtonVariant
  target : Option Draft.ButtonTarget

namespace DraftButton

/-- The label, in parentheses if the button is a primary one. -/
def content (draft : DraftButton) : Text :=
  match draft.variant with
  | .primary => '(' :: (draft.label.text ++ [')'])
  | .outline => draft.label.text

/-- The arrow and the screen behind it. -/
def targetSuffix : Option Draft.ButtonTarget → Text
  | none => []
  | some target => " -> ".toList ++ target.text

/-- The bar and the style classes behind it. -/
def styleSuffix : Option Draft.ButtonStyle → Text
  | none => []
  | some style => " | ".toList ++ style.text

/-- What stands in the brackets of a button without style classes. -/
def inside (draft : DraftButton) : Text :=
  draft.content ++ targetSuffix draft.target

/-- The line that is a single button. -/
def line (draft : DraftButton) (style : Option Draft.ButtonStyle) : Text :=
  '[' :: (draft.inside ++ (styleSuffix style ++ [']']))

/-- The line that buttons stand on side by side, with a gap behind each. -/
def row (drafts : List (DraftButton × Draft.Gap)) : Text :=
  drafts.flatMap fun (draft, gap) => draft.line none ++ gap.text

/-- The button that a draft stands for. -/
def button (draft : DraftButton) (style : Option Draft.ButtonStyle) : Button :=
  ⟨draft.label.text, draft.variant, style.map fun style => style.text,
    draft.target.map fun target => target.text⟩

/-- The rule that reads the button when it stands alone. -/
def rule (draft : DraftButton) : Rule :=
  match draft.variant with
  | .primary => .primaryButton
  | .outline => .outlineButton

/-- The arrow and the screen are read as a whole. -/
theorem readTarget?_targetSuffix (target : Option Draft.ButtonTarget) :
    Button.readTarget? (targetSuffix target) = target.map fun target => (target.text, []) := by
  cases target with
  | none => rfl
  | some target =>
      have visible : Text.trimStart target.text = target.text := by
        apply Text.trimStart_eq_self
        intro character head
        exact target.visible character (List.mem_of_mem_head? head)
      have behind : Text.trimStart (' ' :: target.text) = target.text := visible
      have led : Text.after? Button.arrow (Text.trimStart (" -> ".toList ++ target.text)) =
          some (' ' :: target.text) := rfl
      have plain : ∀ character ∈ target.text,
          (!Text.isBlank character && character ≠ '|' && character ≠ ']') = true := by
        intro character member
        have bar : character ≠ '|' := fun equal => target.barFree (equal ▸ member)
        have bracket : character ≠ ']' := fun equal => target.bracketFree (equal ▸ member)
        simp [target.visible character member, bar, bracket]
      rw [targetSuffix, Button.readTarget?, led]
      simp only [Option.bind_eq_bind, Option.bind_some, behind, List.takeWhile_eq_self_iff.2 plain,
        List.dropWhile_eq_nil_iff.2 plain, if_pos target.nonempty]
      rfl

theorem stops_styleSuffix (style : Option Draft.ButtonStyle) :
    Button.Stops (styleSuffix style ++ [']']) := by
  cases style with
  | none => exact Button.stops_bracket
  | some style =>
      rintro character ⟨⟩
      exact .inl rfl

theorem readClasses?_styleSuffix (style : Draft.ButtonStyle) :
    Button.readClasses? (styleSuffix (some style) ++ [']']) = some style.text := by
  have led : Text.after? ['|'] (Text.trimStart (styleSuffix (some style) ++ [']'])) =
      some ((' ' :: style.text) ++ [']']) := rfl
  have single : '\n' ∉ (' ' :: style.text) ++ [']'] := by simp [style.single]
  have ended : Text.before? [']'] ((' ' :: style.text) ++ [']']) = some (' ' :: style.text) :=
    Text.before?_eq_some_iff.2 rfl
  have trimmed : Text.trimStart (' ' :: style.text) = style.text :=
    Text.trimStart_eq_self (Text.trim_eq_self_iff.1 style.trimmed).1
  have dropped : Text.skipBlanks (' ' :: style.text) = style.text := by
    rw [Text.skipBlanks_eq_trimStart (by rw [trimmed]; exact style.nonempty), trimmed]
  rw [Button.readClasses?, led]
  simp only [Option.bind_eq_bind, Option.bind_some, Text.chomp_of_not_mem single, ended, dropped]
  exact if_pos ⟨style.nonempty, Text.oneLine_iff.2 style.single⟩

/-- What stands behind the label is read up to the closing bracket. -/
theorem readTail?_suffixes (target : Option Draft.ButtonTarget)
    (style : Option Draft.ButtonStyle) :
    Button.readTail? (targetSuffix target ++ (styleSuffix style ++ [']'])) =
      some (target.map fun target => target.text, style.map fun style => style.text) := by
  rw [Button.readTail?, (stops_styleSuffix style).readTarget?_append, readTarget?_targetSuffix]
  cases style with
  | none =>
      have unstyled : Button.readClasses? [']'] = none := rfl
      cases target with
      | none => rfl
      | some target => simp [styleSuffix, unstyled, Text.isClosed]
  | some style =>
      have styled := readClasses?_styleSuffix style
      cases target with
      | none => simp [targetSuffix, styled, style.trimmed, style.nonempty]
      | some target => simp [styled, style.trimmed, style.nonempty]

/-- What stands behind the label starts with a blank or with the bracket. -/
theorem head?_suffixes (target : Option Draft.ButtonTarget) (style : Option Draft.ButtonStyle) :
    (targetSuffix target ++ (styleSuffix style ++ [']'])).head? = some ' ' ∨
      (targetSuffix target ++ (styleSuffix style ++ [']'])).head? = some ']' := by
  cases target with
  | some target => exact .inl rfl
  | none =>
      cases style with
      | some style => exact .inl rfl
      | none => exact .inr rfl

/-- Nothing is read where a part of the label is ahead. -/
theorem readTail?_eq_none (label : Draft.ButtonLabel) {part rest : Text}
    (within : part <:+ label.text) (ahead : part ≠ [])
    (start : ∀ character ∈ rest.head?, character ∉ Button.arrow) :
    Button.readTail? (part ++ rest) = none := by
  obtain ⟨core, visible, inner, trimmed⟩ := Text.exists_trimStart_append rest
    (Text.trim_eq_self_iff.1 label.trimmed).2 within ahead
  obtain ⟨first, others, rfl⟩ := List.exists_cons_of_ne_nil visible
  have unled : Text.after? Button.arrow (first :: others ++ rest) = none := by
    rw [Text.after?_append_of_not_mem start, Option.map_eq_none_iff]
    rw [← Option.not_isSome_iff_eq_none, Text.after?_isSome_iff]
    intro led
    exact label.arrowFree (led.isInfix.trans (inner.trans within).isInfix)
  have bar : first ≠ '|' := by
    rintro rfl
    exact label.barFree ((inner.trans within).subset List.mem_cons_self)
  have noTarget : Button.readTarget? (part ++ rest) = none := by
    rw [Button.readTarget?, trimmed, unled]
    rfl
  have noClasses : Button.readClasses? (part ++ rest) = none := by
    rw [Button.readClasses?, trimmed, List.cons_append, Text.after?, if_neg bar.symm]
    rfl
  have unclosed : Text.isClosed [']'] (part ++ rest) = false := by
    obtain ⟨next, more, rfl⟩ := List.exists_cons_of_ne_nil ahead
    have bracket : next ≠ ']' := by
      rintro rfl
      exact label.closeFree (within.subset List.mem_cons_self)
    simp [Text.isClosed, bracket]
  simp [Button.readTail?, noTarget, noClasses, unclosed]

/-- A primary button is read back. -/
theorem primary?_line {draft : DraftButton} (style : Option Draft.ButtonStyle)
    (shape : draft.variant = .primary) :
    Button.primary? (draft.line style) = some (draft.button style) := by
  let suffixes := targetSuffix draft.target ++ (styleSuffix style ++ [']'])
  have written : draft.line style = ['[', '('] ++ (draft.label.text ++ ')' :: suffixes) := by
    simp [line, inside, content, shape, suffixes]
  have cut : Text.until? (fun text => (Text.after? [')'] text).bind Button.readTail?)
      (draft.label.text ++ ')' :: suffixes) =
        some (draft.label.text, draft.target.map (fun target => target.text),
          style.map fun style => style.text) := by
    apply Text.until?_append draft.label.nonempty
    · intro part within ahead
      obtain ⟨next, more, rfl⟩ := List.exists_cons_of_ne_nil ahead
      have parenthesis : next ≠ ')' := by
        rintro rfl
        exact draft.label.closingFree (within.subset List.mem_cons_self)
      rw [List.cons_append, Text.after?, if_neg parenthesis.symm]
      rfl
    · rw [Text.after?, if_pos rfl, Text.after?_nil, Option.bind_some]
      exact readTail?_suffixes draft.target style
  have single := Text.oneLine_iff.2 draft.label.single
  rw [Button.primary?, written, Text.after?_append]
  simp [cut, single, draft.label.trimmed, button, shape]

/-- The rule for primary buttons does not read an outlined one. -/
theorem primary?_line_eq_none {draft : DraftButton} (style : Option Draft.ButtonStyle)
    (shape : draft.variant = .outline) : Button.primary? (draft.line style) = none := by
  obtain ⟨first, others, label⟩ := List.exists_cons_of_ne_nil draft.label.nonempty
  have parenthesis : first ≠ '(' := by
    rintro rfl
    exact draft.label.openingFree (label ▸ List.mem_cons_self)
  have unled : Text.after? ['[', '('] (draft.line style) = none := by
    simp [line, inside, content, shape, label, Text.after?, parenthesis.symm]
  rw [Button.primary?, unled]
  rfl

/-- An outlined button is read back. -/
theorem outline?_line {draft : DraftButton} (style : Option Draft.ButtonStyle)
    (shape : draft.variant = .outline) :
    Button.outline? (draft.line style) = some (draft.button style) := by
  let suffixes := targetSuffix draft.target ++ (styleSuffix style ++ [']'])
  have written : draft.line style = ['['] ++ (draft.label.text ++ suffixes) := by
    simp [line, inside, content, shape, suffixes]
  have start : ∀ character ∈ suffixes.head?, character ∉ Button.arrow := by
    rcases head?_suffixes draft.target style with blank | bracket
    · simp [suffixes, blank, Button.arrow]
    · simp [suffixes, bracket, Button.arrow]
  have cut : Text.until? Button.readTail? (draft.label.text ++ suffixes) =
      some (draft.label.text, draft.target.map (fun target => target.text),
        style.map fun style => style.text) := by
    apply Text.until?_append draft.label.nonempty
    · intro part within ahead
      exact readTail?_eq_none draft.label within ahead start
    · exact readTail?_suffixes draft.target style
  rw [Button.outline?, written, Text.after?_append]
  simp [cut, draft.label.barFree, draft.label.trimmed, button, shape]

/-! ## Single buttons -/

theorem content_ne_nil (draft : DraftButton) : draft.content ≠ [] := by
  rw [content]
  cases draft.variant with
  | primary => exact List.cons_ne_nil _ _
  | outline => exact draft.label.nonempty

theorem inside_ne_nil (draft : DraftButton) : draft.inside ≠ [] := by
  simp [inside, draft.content_ne_nil]

/-- No field marker stands in the line of a button. -/
theorem unmarked_line (draft : DraftButton) (style : Option Draft.ButtonStyle) :
    Field.Unmarked (draft.line style) := by
  have unmarkedContent : Field.Unmarked draft.content := by
    rw [content]
    cases draft.variant with
    | outline => exact draft.label.unmarked
    | primary =>
        apply (Field.unmarked_cons_iff (by decide)).2
        exact draft.label.unmarked.append (by decide) (by decide)
  have unmarkedTarget : Field.Unmarked (targetSuffix draft.target) := by
    cases draft.target with
    | none => decide
    | some target => exact (Field.unmarked_append_iff (by decide)).2 target.unmarked
  have unmarkedStyle : Field.Unmarked (styleSuffix style ++ [']']) := by
    cases style with
    | none => decide
    | some style =>
        rw [styleSuffix, List.append_assoc, Field.unmarked_append_iff (by decide)]
        exact style.unmarked.append (by decide) (by decide)
  have plain : ∀ target : Option Draft.ButtonTarget,
      (targetSuffix target ++ (styleSuffix style ++ [']'])).head? ≠ some '_' := by
    intro target
    rcases head?_suffixes target style with blank | bracket
    · simp [blank]
    · simp [bracket]
  have suffixes := unmarkedTarget.append unmarkedStyle (plain none)
  rw [line, inside, List.append_assoc]
  apply (Field.unmarked_cons_iff (by decide)).2
  exact unmarkedContent.append suffixes (plain draft.target)

/-- The brackets hold the label, the screen and what marks them. -/
theorem not_mem_inside (draft : DraftButton) {character : Char} (plain : character ∉ "() ->".toList)
    (unlabelled : character ∉ draft.label.text)
    (untargeted : ∀ target ∈ draft.target, character ∉ target.text) : character ∉ draft.inside := by
  apply List.not_mem_append
  · rw [content]
    cases draft.variant with
    | outline => exact unlabelled
    | primary =>
        have opening : character ≠ '(' := fun equal => plain (equal ▸ by decide)
        have closing : character ≠ ')' := fun equal => plain (equal ▸ by decide)
        simp [opening, closing, unlabelled]
  · cases shape : draft.target with
    | none => exact List.not_mem_nil
    | some target =>
        apply List.not_mem_append
        · exact fun member => plain ((by decide : " -> ".toList ⊆ "() ->".toList) member)
        · exact untargeted target shape

/-- What stands in the brackets fits into a row. -/
theorem enclosable_inside (draft : DraftButton) : Button.Enclosable draft.inside := by
  constructor
  · apply draft.not_mem_inside (by decide) draft.label.single
    intro target _ member
    exact absurd (target.visible '\n' member) (by decide)
  · exact draft.not_mem_inside (by decide) draft.label.openFree fun target _ => target.openFree
  · exact draft.not_mem_inside (by decide) draft.label.closeFree fun target _ => target.bracketFree
  · exact draft.not_mem_inside (by decide) draft.label.barFree fun target _ => target.barFree

/-- A button on its own is no row. -/
theorem rowGroups?_line (draft : DraftButton) (style : Option Draft.ButtonStyle) :
    Button.rowGroups? (draft.line style) = none := by
  rw [Button.rowGroups?]
  split
  · cases style with
    | some style =>
        have bar : '|' ∈ draft.line (some style) := by simp [line, styleSuffix]
        rw [Button.readGroups?_eq_none bar]
        rfl
    | none =>
        have read := Button.readGroups?_bracketed draft.enclosable_inside []
        rw [List.append_nil, if_neg draft.inside_ne_nil] at read
        have written : draft.line none = Button.bracketed draft.inside := rfl
        rw [written, read]
        rfl
  · rfl

/-- A single button is read back. -/
theorem classify_single (draft : DraftButton) (style : Option Draft.ButtonStyle) :
    Item.classify (draft.line style) =
      .ok (draft.rule, .control (.button (draft.button style))) := by
  have noRow : Item.applyRule .buttonRow (draft.line style) = .ok none := by
    rw [Item.applyRule, Button.row?, rowGroups?_line]
    rfl
  rw [Item.classify_of_bracket (draft.unmarked_line style) rfl, Item.classifyWith, noRow, rule]
  cases shape : draft.variant with
  | primary => simp [Item.classifyWith, Item.applyRule, primary?_line style shape]
  | outline =>
      simp [Item.classifyWith, Item.applyRule, primary?_line_eq_none style shape,
        outline?_line style shape]

/-! ## Rows -/

/-- No blanks stand next to the brackets of a button. -/
theorem trim_inside (draft : DraftButton) : Text.trim draft.inside = draft.inside := by
  obtain ⟨first, last⟩ := Text.trim_eq_self_iff.1 draft.label.trimmed
  apply Text.trim_eq_self_iff.2
  constructor
  · rw [inside, List.head?_append_of_ne_nil _ draft.content_ne_nil, content]
    cases draft.variant with
    | primary =>
        rintro character ⟨⟩
        decide
    | outline => exact first
  · rw [inside]
    cases draft.target with
    | some target =>
        rw [targetSuffix, ← List.append_assoc, List.getLast?_append_of_ne_nil _ target.nonempty]
        intro character final
        exact target.visible character (List.mem_of_getLast? final)
    | none =>
        rw [targetSuffix, List.append_nil, content]
        cases draft.variant with
        | primary =>
            rw [← List.cons_append, List.getLast?_concat]
            rintro character ⟨⟩
            decide
        | outline => exact last

/-- A bracket pair of a row is the button that it is alone. -/
theorem ofGroup_inside (draft : DraftButton) :
    Button.ofGroup draft.inside = .ok (draft.button none) := by
  have visible : Text.trim draft.inside ≠ [] := by
    rw [trim_inside]
    exact draft.inside_ne_nil
  rw [Button.ofGroup_eq_ok_iff_ofLine? draft.enclosable_inside visible, trim_inside]
  have written : Button.bracketed draft.inside = draft.line none := rfl
  rw [written, Button.ofLine?]
  cases shape : draft.variant with
  | primary => rw [primary?_line none shape, Option.some_or]
  | outline => rw [primary?_line_eq_none none shape, outline?_line none shape, Option.none_or]

variable {drafts : List (DraftButton × Draft.Gap)}

theorem row_cons (draft : DraftButton) (gap : Draft.Gap)
    (drafts : List (DraftButton × Draft.Gap)) :
    row ((draft, gap) :: drafts) = Button.bracketed draft.inside ++ (gap.text ++ row drafts) := by
  rw [row, List.flatMap_cons, List.append_assoc]
  rfl

theorem unmarked_row : Field.Unmarked (row drafts) := by
  induction drafts with
  | nil => decide
  | cons pair drafts ih =>
      obtain ⟨draft, gap⟩ := pair
      have behind : Field.Unmarked (gap.text ++ row drafts) :=
        (Field.unmarked_append_iff (gap.not_mem (by decide))).2 ih
      have closing : ']' ≠ '_' := by decide
      have written : draft.line none = ('[' :: draft.inside) ++ [']'] := rfl
      have alone := draft.unmarked_line none
      rw [written, Field.unmarked_append_cons_iff closing] at alone
      have whole : row ((draft, gap) :: drafts) =
          ('[' :: draft.inside) ++ ']' :: (gap.text ++ row drafts) := by
        simp [row_cons, Button.bracketed]
      rw [whole, Field.unmarked_append_cons_iff closing]
      exact ⟨alone.1, behind⟩

/-- The bracket pairs of a row are found again. -/
theorem readGroups?_row :
    Button.readGroups? none (row drafts) = some (drafts.map fun (draft, _) => draft.inside) := by
  induction drafts with
  | nil => rfl
  | cons pair drafts ih =>
      obtain ⟨draft, gap⟩ := pair
      rw [row_cons, Button.readGroups?_bracketed draft.enclosable_inside,
        if_neg draft.inside_ne_nil, Button.readGroups?_blank_append gap.blank, ih]
      rfl

theorem mapM_ofGroup_inside :
    (drafts.map fun (draft, _) => draft.inside).mapM Button.ofGroup =
      .ok (drafts.map fun (draft, _) => draft.button none) := by
  induction drafts with
  | nil => rfl
  | cons pair drafts ih =>
      rw [List.map_cons, List.mapM_cons, ofGroup_inside, ih]
      rfl

theorem head?_row (several : 2 ≤ drafts.length) : (row drafts).head? = some '[' := by
  cases drafts with
  | nil => cases several
  | cons pair drafts => rfl

/-- A row of buttons is read back. -/
theorem row?_row (several : 2 ≤ drafts.length) :
    Button.row? (row drafts) = .ok (some (drafts.map fun (draft, _) => draft.button none)) := by
  have found : Button.rowGroups? (row drafts) =
      some (drafts.map fun (draft, _) => draft.inside) := by
    rw [Button.rowGroups?, if_pos (head?_row several), readGroups?_row]
    simp [several]
  rw [Button.row?, found]
  exact congrArg (Except.map some) mapM_ofGroup_inside

/-- Buttons are read back: one on a line with everything that belongs to it, and several side by
side as a row of exactly these buttons in their order. -/
theorem classify_line_and_row :
    (∀ (draft : DraftButton) (style : Option Draft.ButtonStyle),
      Item.classify (draft.line style) =
        .ok (draft.rule, .control (.button (draft.button style)))) ∧
    ∀ drafts : List (DraftButton × Draft.Gap), 2 ≤ drafts.length →
      Item.classify (row drafts) =
        .ok (.buttonRow, .row (drafts.map fun (draft, _) => .button (draft.button none))) := by
  refine ⟨classify_single, ?_⟩
  intro drafts several
  rw [Item.classify_of_bracket unmarked_row (head?_row several), Item.classifyWith,
    Item.applyRule, row?_row several]
  simp [Except.map]

/-- A primary button whose label ends with a dash and whose screen starts with an arrow. -/
def sample : DraftButton :=
  ⟨⟨⟨⟨"a-".toList, by decide, by decide, by decide⟩, by decide⟩, by decide, by decide, by decide,
      by decide, by decide, by decide⟩, .primary,
    some ⟨⟨"->(b)".toList, by decide, by simp [Text.isBlank], by decide⟩,
      by decide, by decide, by decide⟩⟩

/-- Style classes with a bar between them. -/
def sampleStyle : Draft.ButtonStyle :=
  ⟨⟨⟨"c | d".toList, by decide, by decide, by decide⟩, by decide⟩, by decide, by decide⟩

/-- Dashes and arrows next to the arrow of a button do not confuse the reader, nor do further
bars. -/
theorem classify_line_and_row_sample :
    Item.classify "[(a-) -> ->(b) | c | d]".toList =
        .ok (.primaryButton, .control (.button
          ⟨"a-".toList, .primary, some "c | d".toList, some "->(b)".toList⟩)) ∧
      2 ≤ [(sample, (⟨"\t".toList, by decide, by decide⟩ : Draft.Gap)),
        (sample, ⟨[], rfl, by decide⟩)].length ∧
      Item.classify "[(a-) -> ->(b)]\t[(a-) -> ->(b)]".toList =
        .ok (.buttonRow, .row [.button ⟨"a-".toList, .primary, none, some "->(b)".toList⟩,
          .button ⟨"a-".toList, .primary, none, some "->(b)".toList⟩]) := by
  refine ⟨classify_line_and_row.1 sample (some sampleStyle), by decide, ?_⟩
  exact classify_line_and_row.2 [(sample, ⟨"\t".toList, by decide, by decide⟩),
    (sample, ⟨[], rfl, by decide⟩)] (by decide)

end DraftButton

end Mockup
