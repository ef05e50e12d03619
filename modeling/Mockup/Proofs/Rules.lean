import Mockup.Item.Reader
import Mockup.Proofs.Text.Cut

/-!
# Which rule reads a line

The first rule that applies to a line decides it, so to know what a line is read as is to know
which rules do not apply. Most rules give themselves away by a single character or two: a heading
starts with a hash, an image with an exclamation mark, and a field has a marker, which holds two
underscores in a row and stands behind a blank.
-/

namespace Mockup

/-- The markers of all fields. -/
def Field.marks : List Text :=
  ["|___|".toList, "___".toList, "__*".toList, "__>".toList, "__[]".toList, "__()".toList]

namespace Field

variable {α : Type} {read : Text → Option α} {line text mark : Text}

/-- No two underscores stand side by side. -/
def Unmarked (text : Text) : Prop :=
  ¬"__".toList <:+: text

instance (text : Text) : Decidable (Unmarked text) :=
  inferInstanceAs (Decidable (¬"__".toList <:+: text))

theorem unmarked_of_not_mem (free : '_' ∉ text) : Unmarked text :=
  fun marked => free (marked.subset List.mem_cons_self)

theorem unmarked_append_cons_iff {stop : Char} {front rest : Text} (other : stop ≠ '_') :
    Unmarked (front ++ stop :: rest) ↔ Unmarked front ∧ Unmarked rest := by
  have free : stop ∉ "__".toList := by simpa using other
  rw [Unmarked, Text.infix_append_cons_iff free, not_or]
  rfl

theorem unmarked_cons_iff {stop : Char} {rest : Text} (other : stop ≠ '_') :
    Unmarked (stop :: rest) ↔ Unmarked rest := by
  have alone : Unmarked [] := unmarked_of_not_mem List.not_mem_nil
  rw [← List.nil_append (stop :: rest), unmarked_append_cons_iff other, and_iff_right alone]

theorem unmarked_append_iff {front rest : Text} (free : '_' ∉ front) :
    Unmarked (front ++ rest) ↔ Unmarked rest :=
  not_congr (Text.infix_append_iff_of_not_mem free)

/-- No marker arises where one text follows another, unless the second starts with an underscore. -/
theorem Unmarked.append {front rest : Text} (first : Unmarked front) (last : Unmarked rest)
    (start : rest.head? ≠ some '_') : Unmarked (front ++ rest) := by
  cases rest with
  | nil => rwa [List.append_nil]
  | cons stop rest =>
      have other : stop ≠ '_' := by simpa using start
      exact (unmarked_append_cons_iff other).2 ⟨first, (unmarked_cons_iff other).1 last⟩

/-- Every marker holds two underscores in a row and no blank. -/
theorem shape_of_mem_marks (known : mark ∈ marks) :
    "__".toList <:+: mark ∧ ∀ character ∈ mark, Text.isBlank character = false := by
  have shapes : ∀ mark ∈ marks, "__".toList <:+: mark ∧
      mark.all (fun character => !Text.isBlank character) = true := by
    decide
  obtain ⟨stem, visible⟩ := shapes mark known
  exact ⟨stem, by simpa using visible⟩

theorem not_mem_of_isBlank {blank : Char} (known : mark ∈ marks)
    (hidden : Text.isBlank blank = true) : blank ∉ mark := by
  intro member
  rw [(shape_of_mem_marks known).2 blank member] at hidden
  cases hidden

/-- The reader succeeds only where a marker stands. -/
def ReadsMark (read : Text → Option α) : Prop :=
  ∀ {text found}, read text = some found → ∃ mark ∈ marks, mark <+: text

theorem readsMark_readMarker? : ReadsMark readMarker? := by
  intro text found success
  rw [readMarker?] at success
  split at success
  · rename_i led
    exact ⟨textMark, by decide, Text.prefix_of_after? led⟩
  · split at success
    · rename_i led
      exact ⟨textareaMark, by decide, Text.prefix_of_after? led⟩
    · split at success
      · rename_i led
        exact ⟨passwordMark, by decide, Text.prefix_of_after? led⟩
      · split at success
        · rename_i led
          exact ⟨dropdownMark, by decide, Text.prefix_of_after? led⟩
        · obtain ⟨rest, led, -⟩ := Option.map_eq_some_iff.1 success
          exact ⟨checkboxMark, by decide, Text.prefix_of_after? led⟩

theorem readBare?_eq_some {found : Unit} (success : readBare? mark text = some found) :
    text = mark ∨ text = mark ++ ['\n'] := by
  rw [readBare?] at success
  split at success
  · rename_i closed
    simpa [Text.isClosed] using closed
  · cases success

theorem readsMark_readBare? (known : mark ∈ marks) : ReadsMark (readBare? mark) := by
  intro text found success
  refine ⟨mark, known, ?_⟩
  rcases readBare?_eq_some success with rfl | rfl
  · exact List.prefix_rfl
  · exact List.prefix_append _ _

theorem readsMark_readListed? (known : mark ∈ marks) : ReadsMark (readListed? mark) := by
  intro text found success
  simp only [readListed?, Option.bind_eq_bind, Option.bind_eq_some_iff] at success
  obtain ⟨rest, led, -⟩ := success
  exact ⟨mark, known, Text.prefix_of_after? led⟩

/-- What is found behind a label and blanks stands at the end of the line. -/
theorem exists_suffix_of_until? {label : Text} {found : α}
    (cut : Text.until? (Text.behindBlanks? read) line = some (label, found)) :
    ∃ rest, rest <:+ line ∧ read rest = some found := by
  obtain ⟨-, rest, rfl, success⟩ := Text.until?_eq_some cut
  refine ⟨Text.trimStart rest, ?_, Text.read_trimStart_of_behindBlanks? success⟩
  exact (Text.trimStart_suffix rest).trans (List.suffix_append _ _)

theorem exists_suffix_of_labelled? {label : Text} {found : α}
    (labelled : labelled? read line = some (label, found)) :
    ∃ rest, rest <:+ line ∧ read rest = some found := by
  simp only [labelled?, Option.bind_eq_bind, Option.bind_eq_some_iff] at labelled
  obtain ⟨⟨front, value⟩, cut, guarded⟩ := labelled
  split at guarded
  · cases guarded
    exact exists_suffix_of_until? cut
  · cases guarded

theorem findAll_eq_nil (absent : next? line = none) : findAll line = [] := by
  rw [findAll]
  split
  · rfl
  · rename_i found
    rw [absent] at found
    cases found

theorem findAll_eq_cons {label marker rest : Text}
    (found : next? line = some (label, marker, rest)) :
    findAll line = (label, marker) :: findAll rest := by
  rw [findAll]
  split
  · rename_i absent
    rw [found] at absent
    cases absent
  · rename_i again
    rw [found] at again
    cases again
    rfl

/-- A line without two underscores in a row holds no field. -/
theorem until?_of_unmarked (reads : ReadsMark read) (unmarked : Unmarked line) :
    Text.until? (Text.behindBlanks? read) line = none := by
  cases cut : Text.until? (Text.behindBlanks? read) line with
  | none => rfl
  | some found =>
      obtain ⟨rest, within, success⟩ := exists_suffix_of_until? cut
      obtain ⟨mark, known, led⟩ := reads success
      have marked := (shape_of_mem_marks known).1.trans led.isInfix
      exact absurd (marked.trans within.isInfix) unmarked

theorem labelled?_of_unmarked (reads : ReadsMark read) (unmarked : Unmarked line) :
    labelled? read line = none := by
  rw [labelled?, until?_of_unmarked reads unmarked]
  rfl

/-- A field without options ends with its marker. -/
theorem bare?_eq_none (single : '\n' ∉ line) (unended : ¬mark <:+ line) :
    bare? mark line = none := by
  rw [bare?, Option.map_eq_none_iff]
  cases labelled : labelled? (readBare? mark) line with
  | none => rfl
  | some found =>
      obtain ⟨rest, within, success⟩ := exists_suffix_of_labelled? labelled
      rcases readBare?_eq_some success with rfl | rfl
      · exact absurd within unended
      · exact absurd (within.subset (by simp)) single

/-- A field with options ends with the bracket behind them. -/
theorem listed?_eq_none_of_unended (single : '\n' ∉ line) (unended : ¬[']'] <:+ line) :
    listed? mark line = none := by
  rw [listed?]
  cases labelled : labelled? (readListed? mark) line with
  | none => rfl
  | some found =>
      obtain ⟨text, within, success⟩ := exists_suffix_of_labelled? labelled
      simp only [readListed?, Option.bind_eq_bind, Option.bind_eq_some_iff] at success
      obtain ⟨rest, led, inner, opened, list, closed, -⟩ := success
      have inside : inner <:+ line :=
        (Text.suffix_of_after? opened).trans
          ((Text.trimStart_suffix rest).trans ((Text.suffix_of_after? led).trans within))
      have innerSingle : '\n' ∉ inner := fun held => single (inside.subset held)
      rw [Text.chomp_of_not_mem innerSingle, Text.before?_eq_some_iff] at closed
      rw [closed] at inside
      exact absurd ((List.suffix_append _ _).trans inside) unended

/-- A field with options holds its marker. -/
theorem listed?_eq_none_of_absent (absent : ¬mark <:+: line) : listed? mark line = none := by
  rw [listed?]
  cases labelled : labelled? (readListed? mark) line with
  | none => rfl
  | some found =>
      obtain ⟨text, within, success⟩ := exists_suffix_of_labelled? labelled
      simp only [readListed?, Option.bind_eq_bind, Option.bind_eq_some_iff] at success
      obtain ⟨rest, led, -⟩ := success
      exact absurd ((Text.prefix_of_after? led).isInfix.trans within.isInfix) absent

end Field

namespace Item

variable {line : Text}

/-! ## The first rule that applies -/

/-- A line is decided by a rule that applies to it if no rule before that one does. -/
theorem classify_eq_ok {rule : Rule} {item : Item} (tried : rule ∈ Rule.order)
    (skipped : ∀ other ∈ Rule.order.takeWhile (· ≠ rule), applyRule other line = .ok none)
    (applied : applyRule rule line = .ok (some item)) : classify line = .ok (rule, item) := by
  rw [classify]
  generalize Rule.order = rules at tried skipped ⊢
  induction rules with
  | nil => cases tried
  | cons first rules ih =>
      rw [classifyWith]
      by_cases same : first = rule
      · rw [same, applied]
      · rw [List.takeWhile_cons_of_pos (by simpa using same)] at skipped
        obtain ⟨here, later⟩ := List.forall_mem_cons.1 skipped
        rw [here]
        exact ih ((List.mem_cons.1 tried).resolve_left (Ne.symm same)) later

/-- A rule that decides a line applies to it, and no rule before that one does. -/
theorem applied_of_classify {rule : Rule} {item : Item} (ruled : rule ≠ .text)
    (decided : classify line = .ok (rule, item)) :
    (∀ other ∈ Rule.order.takeWhile (· ≠ rule), applyRule other line = .ok none) ∧
      applyRule rule line = .ok (some item) := by
  rw [classify] at decided
  generalize Rule.order = rules at decided ⊢
  induction rules with
  | nil =>
      cases decided
      exact absurd rfl ruled
  | cons first rules ih =>
      rw [classifyWith] at decided
      cases here : applyRule first line with
      | error unreadable =>
          rw [here] at decided
          cases decided
      | ok read =>
          rw [here] at decided
          cases read with
          | some found =>
              cases decided
              exact ⟨by simp, here⟩
          | none =>
              obtain ⟨later, applied⟩ := ih decided
              refine ⟨?_, applied⟩
              have other : first ≠ rule := by
                rintro rfl
                rw [here] at applied
                cases applied
              rw [List.takeWhile_cons_of_pos (by simpa using other)]
              exact List.forall_mem_cons.2 ⟨here, later⟩

theorem header?_eq_none (start : line.head? ≠ some '#') : header? line = none := by
  have bare : line.takeWhile (· = '#') = [] := by
    cases line with
    | nil => rfl
    | cons first rest => simpa using start
  rw [header?, bare]
  rfl

theorem image?_eq_none (start : line.head? ≠ some '!') : image? line = none := by
  have plain : Text.after? ['!', '['] line = none := by
    cases line with
    | nil => rfl
    | cons first rest =>
        rw [Text.after?, if_neg]
        rintro rfl
        exact start rfl
  rw [image?, plain]
  rfl

/-- Two fields or more on a line make a row. -/
theorem fieldGroup?_eq_some (several : 2 ≤ (Field.findAll line).length) :
    fieldGroup? line =
      some (.row ((Field.findAll line).map fun (label, marker) =>
        Field.toControl label marker)) := by
  rw [fieldGroup?]
  split
  · rename_i found
    rw [found]
  · rename_i few
    match found : Field.findAll line with
    | [] | [_] =>
        rw [found] at several
        simp at several
    | first :: second :: more => exact absurd found (few first second more)

/-- The rules that look for a field marker. -/
def fieldRules : List Rule :=
  [.fieldGroup, .password, .textarea, .textInput, .checkbox, .radioGroup, .dropdownOptions,
    .dropdown]

/-- No field rule applies to a line without two underscores in a row. -/
theorem applyRule_of_unmarked (unmarked : Field.Unmarked line) {rule : Rule}
    (looking : rule ∈ fieldRules) : applyRule rule line = .ok none := by
  have bare : ∀ mark ∈ Field.marks, Field.bare? mark line = none := by
    intro mark known
    rw [Field.bare?, Field.labelled?_of_unmarked (Field.readsMark_readBare? known) unmarked]
    rfl
  have listed : ∀ mark ∈ Field.marks, Field.listed? mark line = none := by
    intro mark known
    exact Field.labelled?_of_unmarked (Field.readsMark_readListed? known) unmarked
  have found : Field.findAll line = [] :=
    Field.findAll_eq_nil (Field.until?_of_unmarked Field.readsMark_readMarker? unmarked)
  simp only [fieldRules, List.mem_cons, List.not_mem_nil, or_false] at looking
  rcases looking with rfl | rfl | rfl | rfl | rfl | rfl | rfl | rfl
  · simp [applyRule, fieldGroup?, found]
  · simp [applyRule, bare _ (by decide : Field.passwordMark ∈ Field.marks)]
  · simp [applyRule, bare _ (by decide : Field.textareaMark ∈ Field.marks)]
  · simp [applyRule, bare _ (by decide : Field.textMark ∈ Field.marks)]
  · simp [applyRule, bare _ (by decide : Field.checkboxMark ∈ Field.marks)]
  · simp [applyRule, radioGroup?, listed _ (by decide : Field.radioMark ∈ Field.marks)]
  · simp [applyRule, dropdownOptions?, listed _ (by decide : Field.dropdownMark ∈ Field.marks)]
  · simp [applyRule, bare _ (by decide : Field.dropdownMark ∈ Field.marks)]

/-- Only the rules for buttons can read a line that starts with a bracket and holds no marker. -/
theorem classify_of_bracket (unmarked : Field.Unmarked line) (start : line.head? = some '[') :
    classify line = classifyWith [.buttonRow, .primaryButton, .outlineButton] line := by
  have header : applyRule .header line = .ok none := by
    rw [applyRule, header?_eq_none (by simp [start])]
  have image : applyRule .image line = .ok none := by
    rw [applyRule, image?_eq_none (by simp [start])]
  have fields : ∀ rule ∈ fieldRules, applyRule rule line = .ok none := fun rule =>
    applyRule_of_unmarked unmarked
  simp only [fieldRules, List.forall_mem_cons] at fields
  simp only [classify, Rule.order, classifyWith, header, fields, image]

end Item

end Mockup
