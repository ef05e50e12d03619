import Mathlib
import Mockup.Proofs.Inline
import Mockup.Proofs.Reading.Items
import Mockup.Proofs.Rules

/-!
# What checked texts look like

Strict reading keeps a line as text only if no check objects to it. The texts of a document are
written as the lines they were read from, so every text of a strictly read document, written down
again, passes all registered checks. What that means is said here without the checks: each of the
ones that are always there passes on a line exactly if the line is free of what it looks for.
-/

namespace Mockup

namespace Registry

/-- The registry after further registrations, one after the other. -/
def registerAll (registrations : List (Text × Check)) (registry : Registry) : Registry :=
  registrations.foldl (fun registry entry => registry.register entry.1 entry.2) registry

variable {registry : Registry} {name : Text} {check : Check}

@[simp] theorem names_cons (entry : Text × Check) (registry : Registry) :
    names (entry :: registry) = entry.1 :: registry.names := rfl

theorem mem_names_register {other : Text} :
    other ∈ (registry.register name check).names ↔ other = name ∨ other ∈ registry.names := by
  induction registry with
  | nil => simp [register, names]
  | cons entry registry ih =>
      rw [register]
      split
      · rename_i same
        simp [same]
      · simp [ih, or_left_comm]

/-- No name is registered twice. -/
theorem nodup_names_register (unique : registry.names.Nodup) :
    (registry.register name check).names.Nodup := by
  induction registry with
  | nil => simp [register, names]
  | cons entry registry ih =>
      obtain ⟨fresh, rest⟩ := List.nodup_cons.1 unique
      rw [register]
      split
      · rename_i same
        rw [same] at fresh
        exact List.nodup_cons.2 ⟨fresh, rest⟩
      · rename_i other
        refine List.nodup_cons.2 ⟨?_, ih rest⟩
        intro member
        rcases mem_names_register.1 member with same | old
        · exact other same
        · exact fresh old

/-- A registration replaces nothing under another name. -/
theorem mem_register_of_ne {entry : Text × Check} (member : entry ∈ registry)
    (other : entry.1 ≠ name) : entry ∈ registry.register name check := by
  induction registry with
  | nil => exact absurd member List.not_mem_nil
  | cons first registry ih =>
      rw [register]
      split
      · rename_i same
        rcases List.mem_cons.1 member with rfl | later
        · exact absurd same other
        · exact List.mem_cons_of_mem _ later
      · rcases List.mem_cons.1 member with rfl | later
        · exact List.mem_cons_self
        · exact List.mem_cons_of_mem _ (ih later)

theorem nodup_names_registerAll (registrations : List (Text × Check))
    (unique : registry.names.Nodup) : (registry.registerAll registrations).names.Nodup := by
  induction registrations generalizing registry with
  | nil => exact unique
  | cons registration registrations ih => exact ih (nodup_names_register unique)

theorem mem_registerAll {registrations : List (Text × Check)} {entry : Text × Check}
    (member : entry ∈ registry)
    (others : ∀ registration ∈ registrations, entry.1 ≠ registration.1) :
    entry ∈ registry.registerAll registrations := by
  induction registrations generalizing registry with
  | nil => exact member
  | cons registration registrations ih =>
      obtain ⟨first, later⟩ := List.forall_mem_cons.1 others
      exact ih (mem_register_of_ne member first) later

/-- What is registered is found under its name. -/
theorem get?_of_mem (unique : registry.names.Nodup) (member : (name, check) ∈ registry) :
    registry.get? name = some check := by
  induction registry with
  | nil => exact absurd member List.not_mem_nil
  | cons entry registry ih =>
      obtain ⟨fresh, rest⟩ := List.nodup_cons.1 unique
      rw [get?, List.lookup]
      rcases List.mem_cons.1 member with rfl | later
      · simp
      · have other : name ≠ entry.1 := by
          intro same
          rw [← same] at fresh
          exact fresh (List.mem_map_of_mem later)
        rw [beq_false_of_ne other]
        exact ih rest later

theorem mem_names_of_get? (found : registry.get? name = some check) : name ∈ registry.names := by
  obtain ⟨front, rest, whole, -⟩ := List.lookup_eq_some_iff.1 found
  rw [names, whole]
  simp

/-- A check that is asked for and objects to a line makes the line fail. -/
theorem failures_eq_nil_iff {selected : Option (List Text)} {line : Text} :
    registry.failures selected line = [] ↔
      ∀ name ∈ selected.getD registry.names, ∀ check ∈ registry.get? name,
        (check.run line).passed = true := by
  rw [failures, List.filterMap_eq_nil_iff]
  apply forall₂_congr
  intro name asked
  cases registry.get? name with
  | none => simp
  | some check => cases passed : (check.run line).passed <;> simp [passed]

/-- A line that fails some checks fails when more of the registered checks are asked for. -/
theorem failures_ne_nil_of_subset {few many : List Text} {line : Text}
    (covered : ∀ name ∈ few, name ∈ registry.names → name ∈ many)
    (failing : registry.failures (some few) line ≠ []) :
    registry.failures (some many) line ≠ [] := by
  intro accepted
  apply failing
  rw [failures_eq_nil_iff] at accepted ⊢
  intro name asked check found
  exact accepted name (covered name asked (mem_names_of_get? found)) check found

/-- A line without failures passes everything that is registered. -/
theorem passed_of_failures_eq_nil {line : Text} (unique : registry.names.Nodup)
    (accepted : registry.failures none line = []) :
    ∀ entry ∈ registry, (entry.2.run line).passed = true := by
  intro entry member
  have asked : entry.1 ∈ registry.names := List.mem_map_of_mem member
  exact failures_eq_nil_iff.1 accepted entry.1 asked entry.2 (get?_of_mem unique member)

end Registry

/-! ## The checks that are always there -/

namespace Check

/-- A field marker stands at the start of the line or behind a blank. -/
def Marked (line : Text) : Prop :=
  ∃ marker ∈ Field.marks, marker <+: line ∨
    ∃ front blank rest, line = front ++ blank :: rest ∧ Text.isBlank blank = true ∧ marker <+: rest

variable {line : Text}

theorem passed_brackets : (brackets.run line).passed = true ↔ line.count '[' = line.count ']' := by
  simp only [brackets]
  split <;> simp [*]

theorem passed_strayCloser :
    (strayCloser.run line).passed = true ↔
      Text.trim line ≠ "]".toList ∧ Text.trim line ≠ "--]".toList := by
  simp only [strayCloser]
  rw [ne_eq, ne_eq, ← not_or]
  split <;> simp_all only [Bool.false_eq_true, not_true_eq_false, not_false_eq_true]

theorem passed_malformedImage :
    (malformedImage.run line).passed = true ↔ ¬"![".toList <+: Text.trimStart line := by
  have started : (Text.after? ['!', '['] (Text.trimStart line)).isSome = true ↔
      "![".toList <+: Text.trimStart line := Text.after?_isSome_iff
  rw [← started]
  simp only [malformedImage]
  split <;> simp [*]

theorem isSome_markerAt? {text : Text} :
    (markerAt? text).isSome = true ↔ ∃ marker ∈ Field.marks, marker <+: text := by
  have found : markerAt? text =
      Field.marks.find? fun marker => (Text.after? marker text).isSome := rfl
  rw [found, List.find?_isSome]
  simp only [Text.after?_isSome_iff]

theorem isSome_markerBehindBlank? :
    (markerBehindBlank? line).isSome = true ↔
      ∃ front blank rest, line = front ++ blank :: rest ∧ Text.isBlank blank = true ∧
        (markerAt? rest).isSome = true := by
  induction line with
  | nil =>
      constructor
      · intro found
        cases found
      · rintro ⟨front, blank, rest, whole, -⟩
        simp at whole
  | cons character line ih =>
      rw [markerBehindBlank?, Option.isSome_or, Bool.or_eq_true, ih]
      constructor
      · rintro (here | ⟨front, blank, rest, whole, hidden, marked⟩)
        · split at here
          · rename_i hidden
            exact ⟨[], character, line, rfl, hidden, here⟩
          · cases here
        · exact ⟨character :: front, blank, rest, congrArg _ whole, hidden, marked⟩
      · rintro ⟨front, blank, rest, whole, hidden, marked⟩
        cases front with
        | nil =>
            cases whole
            exact .inl (by rwa [if_pos hidden])
        | cons first front =>
            cases whole
            exact .inr ⟨front, blank, rest, rfl, hidden, marked⟩

theorem isSome_danglingMarker? : (danglingMarker? line).isSome = true ↔ Marked line := by
  rw [danglingMarker?, Option.isSome_or, Bool.or_eq_true, isSome_markerBehindBlank?]
  simp only [isSome_markerAt?]
  constructor
  · rintro (⟨marker, mark, led⟩ | ⟨front, blank, rest, whole, hidden, marker, mark, led⟩)
    · exact ⟨marker, mark, .inl led⟩
    · exact ⟨marker, mark, .inr ⟨front, blank, rest, whole, hidden, led⟩⟩
  · rintro ⟨marker, mark, led | ⟨front, blank, rest, whole, hidden, led⟩⟩
    · exact .inl ⟨marker, mark, led⟩
    · exact .inr ⟨front, blank, rest, whole, hidden, marker, mark, led⟩

theorem passed_danglingMarker : (danglingMarker.run line).passed = true ↔ ¬Marked line := by
  rw [← isSome_danglingMarker?]
  simp only [danglingMarker]
  split <;> simp [*]

end Check

namespace Reading

/-- A text of a strictly read document is written as a line that was read and did not fail. -/
theorem failures_of_mem_itemsOf {options : Options} {registry : Registry} {text : Text}
    {children : List Inline} (strict : options.strict = true)
    (member : .text children ∈ Block.itemsOf (read options registry text).blocks) :
    children.flatMap Inline.source ∈ (lines text).map (prepare options) ∧
      registry.failures options.checks (children.flatMap Inline.source) = [] := by
  obtain ⟨line, read, deep, present, made⟩ := exists_line_of_mem_itemsOf member
  obtain ⟨decided, rfl⟩ := Item.rule_eq_text_of_ofLine made.symm
  rw [Inline.flatMap_source_read]
  refine ⟨read, ?_⟩
  simp only [omission, strict, decided, Bool.true_and, Bool.or_eq_false_iff, true_and,
    decide_eq_false_iff_not, ne_eq, Decidable.not_not] at present
  exact present.2

/-- What strict reading guarantees about texts: written down again, every text of the document, at
any depth, is a line of the source that passes all registered checks. While the checks that are
always there have not been replaced, the line has as many opening as closing brackets, is not a
closer, has no field marker at its start or behind a blank, and does not start like an image. -/
theorem read_strict_texts_pass (registrations : List (Text × Check)) (preserveWhitespace : Bool)
    (text : Text) :
    let registry := Registry.builtin.registerAll registrations
    let options : Options := { strict := true, preserveWhitespace, checks := none }
    ∀ children, .text children ∈ Block.itemsOf (read options registry text).document.blocks →
      let line := children.flatMap Inline.source
      line ∈ (lines text).map (prepare options) ∧
        (∀ entry ∈ registry, (entry.2.run line).passed = true) ∧
        ((∀ registration ∈ registrations, registration.1 ∉ Registry.builtin.names) →
          line.count '[' = line.count ']' ∧
            (Text.trim line ≠ "]".toList ∧ Text.trim line ≠ "--]".toList) ∧
            ¬Check.Marked line ∧ ¬"![".toList <+: Text.trimStart line) := by
  intro registry options children member line
  obtain ⟨read, accepted⟩ := failures_of_mem_itemsOf rfl member
  have unique : registry.names.Nodup := Registry.nodup_names_registerAll registrations (by decide)
  have passed := Registry.passed_of_failures_eq_nil unique accepted
  refine ⟨read, passed, ?_⟩
  intro additions
  have always : ∀ entry ∈ Registry.builtin, (entry.2.run line).passed = true := by
    intro entry builtin
    apply passed entry
    apply Registry.mem_registerAll builtin
    intro registration registered same
    apply additions registration registered
    rw [← same]
    exact List.mem_map_of_mem builtin
  simp only [Registry.builtin, List.forall_mem_cons, List.not_mem_nil, false_implies,
    implies_true, and_true] at always
  obtain ⟨brackets, closer, marker, image⟩ := always
  exact ⟨Check.passed_brackets.1 brackets, Check.passed_strayCloser.1 closer,
    Check.passed_danglingMarker.1 marker, Check.passed_malformedImage.1 image⟩

/-- A text in a box, read with one more check than there always are. -/
theorem read_strict_texts_pass_box :
    .text [.text "_".toList, .text "a".toList] ∈ Block.itemsOf (read { strict := true }
        (Registry.builtin.registerAll [("b".toList, .forbid "b".toList "no b".toList none)])
        "[\n_a".toList).document.blocks ∧
      "b".toList ∉ Registry.builtin.names ∧
      ((Check.forbid "b".toList "no b".toList none).run "_a".toList).passed = true ∧
      ¬Check.Marked "_a".toList := by
  have only : Block.itemsOf (read { strict := true }
      (Registry.builtin.registerAll [("b".toList, .forbid "b".toList "no b".toList none)])
      "[\n_a".toList).document.blocks = [.text [.text "_".toList, .text "a".toList]] := by
    decide +kernel
  have member := only ▸ List.mem_singleton_self (Item.text [.text "_".toList, .text "a".toList])
  obtain ⟨-, passed, additional⟩ := read_strict_texts_pass
    [("b".toList, .forbid "b".toList "no b".toList none)] false "[\n_a".toList _ member
  have addition : "b".toList ∉ Registry.builtin.names := by decide
  have marker := (additional (List.forall_mem_singleton.2 addition)).2.2.1
  exact ⟨member, addition, passed _ (List.mem_append_right Registry.builtin
    (List.mem_singleton_self _)), marker⟩

end Reading

end Mockup
