import Mockup.Proofs.Checks
import Mockup.Proofs.Fields

/-!
# Markers in checks and in fields

What a field marker is, is decided twice: by the search for the fields of a line and by the check
for markers that are left over. The search wants a label in front of the blanks and knows no radio
groups; the check wants nothing but the start of the line or a blank. Apart from that the two agree,
so a line with a field is never kept as text where the check is made.
-/

namespace Mockup

namespace Check

/-- A mark stands somewhere right behind a blank. -/
def BehindBlank (mark text : Text) : Prop :=
  ∃ front blank rest, text = front ++ blank :: rest ∧ Text.isBlank blank = true ∧ mark <+: rest

variable {mark text : Text}

theorem BehindBlank.cons (behind : BehindBlank mark text) (character : Char) :
    BehindBlank mark (character :: text) := by
  obtain ⟨front, blank, rest, rfl, hidden, led⟩ := behind
  exact ⟨character :: front, blank, rest, rfl, hidden, led⟩

end Check

namespace Field

open Check (BehindBlank)

variable {line text : Text}

/-- Behind the last of the blanks that end a field there is a mark. -/
theorem EndsField.exists_behindBlank (ends : EndsField text) :
    ∃ mark ∈ sideMarks, BehindBlank mark text := by
  obtain ⟨blanks, marker, rest, rfl, nonempty, blank, marked⟩ := ends
  obtain ⟨mark, known, led⟩ := marked.exists_prefix
  obtain ⟨front, last, rfl⟩ := (List.eq_nil_or_concat blanks).resolve_left nonempty
  have hidden : Text.isBlank last = true := List.all_eq_true.1 blank last (by simp)
  refine ⟨mark, known, front, last, marker ++ rest, by simp, hidden, ?_⟩
  exact led.trans (List.prefix_append _ _)

/-- A blank with a mark behind it ends a field. -/
theorem endsField_cons {mark : Text} {blank : Char} (known : mark ∈ sideMarks)
    (hidden : Text.isBlank blank = true) (led : mark <+: text) : EndsField (blank :: text) := by
  obtain ⟨rest, rfl⟩ := led
  exact ⟨[blank], mark, rest, rfl, List.cons_ne_nil _ _, by simpa [Text.allBlank] using hidden,
    .bare known⟩

/-- A line has a field exactly if there is a mark behind a blank that is not its first
character. -/
theorem findAll_ne_nil_iff :
    findAll line ≠ [] ↔
      ∃ first rest, line = first :: rest ∧ ∃ mark ∈ sideMarks, BehindBlank mark rest := by
  rw [ne_eq, findAll_eq_nil_iff]
  constructor
  · intro found
    simp only [not_forall, not_not] at found
    obtain ⟨part, ⟨front, rfl⟩, proper, ends⟩ := found
    cases front with
    | nil => exact absurd rfl proper
    | cons first front =>
        obtain ⟨mark, known, before, blank, rest, rfl, hidden, led⟩ := ends.exists_behindBlank
        exact ⟨first, _, rfl, mark, known, front ++ before, blank, rest, by simp, hidden, led⟩
  · rintro ⟨first, _, rfl, mark, known, front, blank, rest, rfl, hidden, led⟩ absent
    have within : blank :: rest <:+ first :: (front ++ blank :: rest) :=
      (List.suffix_append front _).trans (List.suffix_cons _ _)
    have proper : blank :: rest ≠ first :: (front ++ blank :: rest) := by
      intro whole
      have same := congrArg List.length whole
      simp at same
      omega
    exact absent _ within proper (endsField_cons known hidden led)

end Field

namespace Check

/-- One of the marks stands at the start of a line, or right behind its first character if that is a
blank. -/
def LedBy (marks : List Text) (line : Text) : Prop :=
  ∃ mark ∈ marks, mark <+: line ∨
    ∃ blank rest, line = blank :: rest ∧ Text.isBlank blank = true ∧ mark <+: rest

variable {line : Text}

/-- Where fields may stand side by side, what the search for fields misses is only what has no label
in front of it. -/
theorem exists_sideMark_iff :
    (∃ mark ∈ Field.sideMarks, mark <+: line ∨ BehindBlank mark line) ↔
      Field.findAll line ≠ [] ∨ LedBy Field.sideMarks line := by
  constructor
  · rintro ⟨mark, known, led | behind⟩
    · exact .inr ⟨mark, known, .inl led⟩
    · obtain ⟨front, blank, rest, rfl, hidden, led⟩ := behind
      cases front with
      | nil => exact .inr ⟨mark, known, .inr ⟨blank, rest, rfl, hidden, led⟩⟩
      | cons first front =>
          have later : BehindBlank mark (front ++ blank :: rest) :=
            ⟨front, blank, rest, rfl, hidden, led⟩
          exact .inl (Field.findAll_ne_nil_iff.2 ⟨first, _, rfl, mark, known, later⟩)
  · rintro (found | ⟨mark, known, led | ⟨blank, rest, rfl, hidden, led⟩⟩)
    · obtain ⟨first, rest, rfl, mark, known, later⟩ := Field.findAll_ne_nil_iff.1 found
      exact ⟨mark, known, .inr (later.cons first)⟩
    · exact ⟨mark, known, .inl led⟩
    · exact ⟨mark, known, .inr ⟨[], blank, rest, rfl, hidden, led⟩⟩

theorem marked_iff :
    Marked line ↔
      Field.findAll line ≠ [] ∨ LedBy Field.sideMarks line ∨
        Field.radioMark <+: line ∨ BehindBlank Field.radioMark line := by
  have parts : Marked line ↔ (∃ mark ∈ Field.sideMarks, mark <+: line ∨ BehindBlank mark line) ∨
      (Field.radioMark <+: line ∨ BehindBlank Field.radioMark line) := by
    rw [Marked, Field.marks_eq_sideMarks]
    simp only [List.mem_append, List.mem_singleton, or_and_right, exists_or, exists_eq_left]
    rfl
  rw [parts, exists_sideMark_iff, or_assoc]

end Check

namespace Reading

/-- A line with a field is not kept as text where the check for markers is made. -/
theorem text_not_mem_itemsOf {options : Options} {registry : Registry} {line : Text}
    (strict : options.strict = true)
    (registered : registry.get? "dangling_field_marker".toList = some Check.danglingMarker)
    (asked : "dangling_field_marker".toList ∈ options.checks.getD registry.names)
    (found : Field.findAll line ≠ []) (text : Text) :
    .text (Inline.read line) ∉ Block.itemsOf (read options registry text).blocks := by
  intro member
  obtain ⟨-, accepted⟩ := failures_of_mem_itemsOf strict member
  rw [Inline.flatMap_source_read, Registry.failures_eq_nil_iff] at accepted
  have passed := accepted _ asked _ registered
  exact Check.passed_danglingMarker.1 passed (Check.marked_iff.2 (.inl found))

end Reading

namespace Check

/-- The check for markers and the search for fields agree. The check fails on a line exactly if a
field is found there, or one of the marks of such fields stands where it has no label in front of
it, at the start of the line or behind a first character that is a blank, or the mark of a radio
group stands at the start of the line or behind a blank. So where strict reading makes this check,
it keeps no line as text on which a field is found. -/
theorem passed_danglingMarker_eq_false_iff (line : Text) :
    ((danglingMarker.run line).passed = false ↔
      Field.findAll line ≠ [] ∨ LedBy Field.sideMarks line ∨
        Field.radioMark <+: line ∨ BehindBlank Field.radioMark line) ∧
      (Field.findAll line ≠ [] → ∀ (options : Options) (registry : Registry) (text : Text),
        options.strict = true →
        registry.get? "dangling_field_marker".toList = some danglingMarker →
        "dangling_field_marker".toList ∈ options.checks.getD registry.names →
        .text (Inline.read line) ∉
          Block.itemsOf (Reading.read options registry text).document.blocks) := by
  constructor
  · rw [← Bool.not_eq_true, passed_danglingMarker, not_not, marked_iff]
  · intro found options registry text strict registered asked
    exact Reading.text_not_mem_itemsOf strict registered asked found text

/-- A line with a field and text behind it, which is no field as a whole. -/
theorem passed_danglingMarker_eq_false_iff_trailing :
    Field.findAll "a ___ b".toList ≠ [] ∧
      Registry.builtin.get? "dangling_field_marker".toList = some danglingMarker ∧
      "dangling_field_marker".toList ∈ Registry.builtin.names ∧
      (danglingMarker.run "a ___ b".toList).passed = false ∧
      .text (Inline.read "a ___ b".toList) ∉ Block.itemsOf
        (Reading.read { strict := true } Registry.builtin "a ___ b\nc".toList).document.blocks := by
  have found : Field.findAll "a ___ b".toList ≠ [] :=
    Field.findAll_ne_nil_iff.2
      ⟨'a', " ___ b".toList, rfl, "___".toList, by decide, [], ' ', "___ b".toList, rfl, rfl,
        by decide⟩
  have registered : Registry.builtin.get? "dangling_field_marker".toList = some danglingMarker :=
    rfl
  have asked : "dangling_field_marker".toList ∈ Registry.builtin.names := by decide
  obtain ⟨fails, unkept⟩ := passed_danglingMarker_eq_false_iff "a ___ b".toList
  exact ⟨found, registered, asked, fails.2 (.inl found),
    unkept found { strict := true } Registry.builtin _ rfl registered asked⟩

end Check

end Mockup
