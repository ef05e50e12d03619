import Mockup.Proofs.Checks
import Mockup.Proofs.Reading.Reports
import Mockup.Proofs.Strictness

/-!
# Selecting checks

More checks only refuse more. Two strict readings of one text that differ in the selected checks
leave out the same lines, apart from texts that only the larger selection objects to; the rest of
the two documents is the same. Nor does a larger selection keep silent about a line: what it says
may be something else, because a text that stands in a workflow is reported there as not being a
screen unless it fails a check first.
-/

namespace Mockup.Reading

namespace State.Thins

variable {spare : Item → Prop} {full thin : State} {number : Nat} {line : Text}

/-- Blocks are reported where they stand, and their items play no part in it. -/
theorem putReports_eq (thinned : Thins spare full thin) {block remaining : Block}
    (inside : Block.Thins spare block remaining) :
    full.putReports number block = thin.putReports number remaining := by
  rw [putReports, putReports]
  rcases thinned.frames_cases with
    ⟨closed, thinClosed⟩ | ⟨frame, outer, thinFrame, thinOuter, stacked, thinStacked, inner, rest⟩
  · rw [closed, thinClosed]
  · rw [stacked, thinStacked]
    rcases inner.add? inside with ⟨dropped, thinDropped⟩ | ⟨grown, shrunk, added, thinAdded, -⟩
    · simp [dropped, thinDropped]
    · simp [added, thinAdded]

theorem popReports_eq (thinned : Thins spare full thin) : full.popReports = thin.popReports := by
  rw [popReports, popReports]
  rcases thinned.frames_cases with
    ⟨closed, thinClosed⟩ | ⟨frame, outer, thinFrame, thinOuter, stacked, thinStacked, inner, rest⟩
  · rw [closed, thinClosed]
  · rw [stacked, thinStacked]
    have without : Thins spare { full with frames := outer } { thin with frames := thinOuter } :=
      ⟨rest, thinned.table, thinned.finished⟩
    simp only [inner.line_eq]
    exact without.putReports_eq inner.close

theorem endTableReports_eq (thinned : Thins spare full thin) :
    full.endTableReports = thin.endTableReports := by
  rw [endTableReports, endTableReports, thinned.table]
  cases thin.table with
  | none => rfl
  | some table =>
      have without : Thins spare { full with table := none } { thin with table := none } :=
        ⟨thinned.frames, rfl, thinned.finished⟩
      exact without.putReports_eq (.table _)

theorem unwindReports_eq (count : Nat) (thinned : Thins spare full thin) :
    full.unwindReports count = thin.unwindReports count := by
  induction count generalizing full thin with
  | zero => rfl
  | succ count ih => rw [unwindReports, unwindReports, thinned.popReports_eq, ih thinned.pop]

theorem closeReports_eq (thinned : Thins spare full thin) :
    full.closeReports = thin.closeReports := by
  rw [closeReports, closeReports, thinned.endTableReports_eq, thinned.endTable.frames.length_eq,
    thinned.endTable.unwindReports_eq]

variable {registry : Registry} {loose tight : Options}

/-- A move that is reported in the first reading is reported in the second one. -/
theorem lines_makeReports_subset
    (tightens : Tightens spare (omission loose registry) (omission tight registry))
    (thinned : Thins spare full thin) :
    (full.makeReports loose registry number line (Move.of number line full)).map Diagnostic.line ⊆
      (thin.makeReports tight registry number line (Move.of number line thin)).map
        Diagnostic.line := by
  rw [← thinned.move_eq]
  cases Move.of number line full with
  | close =>
      rw [makeReports, makeReports, thinned.popReports_eq]
      exact List.Subset.refl _
  | skip | table => exact List.nil_subset _
  | push frame =>
      rw [makeReports, makeReports, opener?, opener?, thinned.inWorkflow_eq]
      exact List.Subset.refl _
  | item deep =>
      cases deep with
      | true => exact List.Subset.refl _
      | false =>
          rw [makeReports, makeReports]
          cases left : omission loose registry line false with
          | true =>
              rw [tightens.more line false left]
              exact List.Subset.refl _
          | false =>
              cases leaves : omission tight registry line false with
              | true =>
                  rcases full.putReports_cases number (.item (Item.ofLine line).2) with none | one
                  · simp [none]
                  · simp [one, Diagnostic.line]
              | false =>
                  simp only [Bool.false_eq_true, if_false, thinned.putReports_eq (.item _)]
                  exact List.Subset.refl _

theorem lines_nextReports_subset
    (tightens : Tightens spare (omission loose registry) (omission tight registry))
    (thinned : Thins spare full thin) :
    (full.nextReports loose registry number line).map Diagnostic.line ⊆
      (thin.nextReports tight registry number line).map Diagnostic.line := by
  rw [nextReports, nextReports, thinned.table]
  cases thin.table.bind fun table => table.add? line with
  | some table => exact List.nil_subset _
  | none =>
      simp only [List.map_append, thinned.endTableReports_eq]
      apply List.append_subset.2
      constructor
      · exact List.subset_append_left _ _
      · apply List.subset_append_of_subset_right
        exact thinned.endTable.lines_makeReports_subset tightens

/-- Every line that the first of two readings reports is reported by the second one. -/
theorem lines_courseReports_subset
    (tightens : Tightens spare (omission loose registry) (omission tight registry))
    (thinned : Thins spare full thin) (number : Nat) (lines : List Text) :
    (full.courseReports loose registry number lines).map Diagnostic.line ⊆
      (thin.courseReports tight registry number lines).map Diagnostic.line := by
  induction lines generalizing number full thin with
  | nil =>
      rw [courseReports, courseReports, thinned.closeReports_eq]
      exact List.Subset.refl _
  | cons line lines ih =>
      simp only [courseReports, List.map_append]
      apply List.append_subset.2
      constructor
      · apply List.subset_append_of_subset_left
        exact thinned.lines_nextReports_subset tightens
      · apply List.subset_append_of_subset_right
        exact ih (thinned.next tightens) (number + 1)

end State.Thins

/-! ## Texts -/

/-- A larger selection of checks leaves out more, and nothing more than texts. -/
theorem tightens_selected {registry : Registry} {few many : List Text} (preserveWhitespace : Bool)
    (covered : ∀ name ∈ few, name ∈ registry.names → name ∈ many) :
    Tightens (fun item => ∃ children, item = .text children)
      (omission { strict := true, preserveWhitespace, checks := some few } registry)
      (omission { strict := true, preserveWhitespace, checks := some many } registry) := by
  constructor
  · intro line deep left
    simp only [omission, Bool.true_and, Bool.or_eq_true, decide_eq_true_eq] at left ⊢
    rcases left with tooDeep | ⟨decided, failing⟩
    · exact .inl tooDeep
    · exact .inr ⟨decided, Registry.failures_ne_nil_of_subset covered failing⟩
  · intro line deep kept leaves
    simp only [omission, Bool.true_and, Bool.or_eq_false_iff] at kept
    simp only [omission, Bool.true_and, kept.1, Bool.false_or, decide_eq_true_eq] at leaves
    exact ⟨Inline.read line, Item.ofLine_of_rule_eq_text leaves.1⟩

/-- More checks only refuse more: if a selection of checks holds every registered check of another
one, strict reading with it reads the same document without some of its texts, and reports every
line that is reported with the other one. -/
theorem read_strict_thins_of_subset (registry : Registry) (text : Text) (preserveWhitespace : Bool)
    (few many : List Text) (covered : ∀ name ∈ few, name ∈ registry.names → name ∈ many) :
    let loose := read { strict := true, preserveWhitespace, checks := some few } registry text
    let tight := read { strict := true, preserveWhitespace, checks := some many } registry text
    Block.ThinsAll (fun item => ∃ children, item = .text children)
        loose.document.blocks tight.document.blocks ∧
      ∀ diagnostic ∈ loose.diagnostics, ∃ other ∈ tight.diagnostics,
        other.line = diagnostic.line := by
  intro loose tight
  have tightens := tightens_selected preserveWhitespace covered
  refine ⟨thinsAll_read_blocks rfl tightens, ?_⟩
  have reported :
      loose.diagnostics.map Diagnostic.line ⊆ tight.diagnostics.map Diagnostic.line := by
    rw [read_diagnostics rfl, read_diagnostics rfl]
    exact State.Thins.empty.lines_courseReports_subset tightens _ _
  intro diagnostic member
  exact List.mem_map.1 (reported (List.mem_map_of_mem member))

/-- A text in a workflow: one check lets it pass to be dropped, another one refuses it. -/
theorem read_strict_thins_of_subset_workflow :
    let few := ["stray_closer".toList, "unknown".toList]
    let many := ["unbalanced_brackets".toList, "stray_closer".toList]
    (∀ name ∈ few, name ∈ Registry.builtin.names → name ∈ many) ∧
      .notAScreen 2 ∈ (read { strict := true, checks := some few } Registry.builtin
        "[workflow\na]".toList).diagnostics ∧
      ∃ other ∈ (read { strict := true, checks := some many } Registry.builtin
        "[workflow\na]".toList).diagnostics, other.line = 2 := by
  intro few many
  have covered : ∀ name ∈ few, name ∈ Registry.builtin.names → name ∈ many := by decide
  have reported : (read { strict := true, checks := some ["stray_closer".toList, "unknown".toList] }
      Registry.builtin "[workflow\na]".toList).diagnostics = [.notAScreen 2] := by decide +kernel
  have dropped := reported ▸ List.mem_singleton_self (Diagnostic.notAScreen 2)
  exact ⟨covered, dropped, (read_strict_thins_of_subset Registry.builtin "[workflow\na]".toList
    false few many covered).2 _ dropped⟩

end Mockup.Reading
