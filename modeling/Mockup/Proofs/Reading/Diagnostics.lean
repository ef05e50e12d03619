import Mathlib
import Mockup.Proofs.Compile
import Mockup.Proofs.Reading.Reports

/-!
# The order of diagnostics

A diagnostic is either about what stands on a line itself, and then it is reported when the line is
read, or about a block that stands in a workflow and is not a screen, and then it names the line on
which the block started and is reported when the block ends. Of the first kind there is at most one
for each line, in the order of the lines. For the second kind lines are counted: as often as a line
is reported, plus as often as a block that started on it is open, is never more than once.
-/

namespace Mockup

/-- Whether a diagnostic is about a block that stands where only screens may stand. -/
def Diagnostic.isNotAScreen : Diagnostic → Bool
  | .notAScreen _ => true
  | .unreadable .. | .badDirectives .. | .tooDeep _ => false

theorem Diagnostic.message_unreadable (number : Nat) (content : Text) (failures : List Text) :
    (Diagnostic.unreadable number content failures).message =
      "Line ".toList ++ Text.ofNat number ++ ": Unable to parse \"".toList ++ content ++
        "\" (".toList ++ Text.joined "; ".toList failures ++ ")".toList := by
  calc
    (Diagnostic.unreadable number content failures).message =
        "Line ".toList ++ Text.ofNat number ++ ": ".toList ++
          ("Unable to parse \"".toList ++ content ++ "\" (".toList ++
            Text.joined "; ".toList failures ++ ")".toList) := rfl
    _ = "Line ".toList ++ Text.ofNat number ++ (": ".toList ++ "Unable to parse \"".toList) ++
          content ++ "\" (".toList ++ Text.joined "; ".toList failures ++ ")".toList := by
      simp only [List.append_assoc]

theorem Frame.line_add? {frame grown : Frame} {block : Block}
    (added : frame.add? block = some grown) : grown.line = frame.line := by
  cases takes_of_add? added <;> rfl

theorem Frame.line_of_frameOf? {number : Nat} {opener : Opener} {frame : Frame}
    (opened : Reading.frameOf? number opener = some frame) : frame.line = number := by
  cases opener with
  | table => cases opened
  | card | grid | div | screen | workflow =>
      cases opened
      rfl

theorem OpenTable.line_add? {table grown : OpenTable} {line : Text}
    (added : table.add? line = some grown) : grown.line = table.line := by
  rw [OpenTable.add?] at added
  split at added
  · cases added
    rfl
  · split at added
    · cases added
      rfl
    · cases added

namespace Reading

variable {options : Options} {registry : Registry} {number : Nat} {line : Text} {state : State}

/-- The lines that diagnostics are about which tell what stands on the line itself. -/
def ownLines (diagnostics : List Diagnostic) : List Nat :=
  (diagnostics.filter fun diagnostic => !diagnostic.isNotAScreen).map Diagnostic.line

theorem ownLines_append (front rest : List Diagnostic) :
    ownLines (front ++ rest) = ownLines front ++ ownLines rest := by
  simp [ownLines]

theorem mem_ownLines {diagnostics : List Diagnostic} {diagnostic : Diagnostic}
    (member : diagnostic ∈ diagnostics) (own : diagnostic.isNotAScreen = false) :
    diagnostic.line ∈ ownLines diagnostics := by
  apply List.mem_map_of_mem
  simp [member, own]

namespace State

theorem ownLines_putReports (block : Block) (state : State) :
    ownLines (state.putReports number block) = [] := by
  rcases state.putReports_cases number block with none | one
  · rw [none]
    rfl
  · rw [one]
    rfl

theorem ownLines_popReports (state : State) : ownLines state.popReports = [] := by
  rw [popReports]
  split
  · rfl
  · exact ownLines_putReports _ _

theorem ownLines_endTableReports (state : State) : ownLines state.endTableReports = [] := by
  rw [endTableReports]
  split
  · rfl
  · exact ownLines_putReports _ _

theorem ownLines_unwindReports (count : Nat) (state : State) :
    ownLines (state.unwindReports count) = [] := by
  induction count generalizing state with
  | zero => rfl
  | succ count ih => rw [unwindReports, ownLines_append, ownLines_popReports, ih, List.nil_append]

theorem ownLines_closeReports (state : State) : ownLines state.closeReports = [] := by
  rw [closeReports, ownLines_append, ownLines_endTableReports, ownLines_unwindReports,
    List.nil_append]

theorem ownLines_openerReports (opener : Opener) :
    (ownLines (openerReports number opener)).Sublist [number] := by
  cases opener with
  | table | card | grid | div | screen => exact List.nil_sublist _
  | workflow directives =>
      rw [openerReports]
      split
      · exact List.nil_sublist _
      · exact List.Sublist.refl _

/-- A move reports at most one thing about its line. -/
theorem ownLines_makeReports (move : Move) :
    (ownLines (state.makeReports options registry number line move)).Sublist [number] := by
  cases move with
  | close =>
      rw [makeReports, ownLines_popReports]
      exact List.nil_sublist _
  | skip | table => exact List.nil_sublist _
  | push frame =>
      rw [makeReports]
      cases state.opener? line with
      | none => exact List.nil_sublist _
      | some opener => exact ownLines_openerReports opener
  | item deep =>
      cases deep with
      | true => exact List.Sublist.refl _
      | false =>
          rw [makeReports]
          split
          · exact List.Sublist.refl _
          · rw [ownLines_putReports]
            exact List.nil_sublist _

theorem ownLines_nextReports :
    (ownLines (state.nextReports options registry number line)).Sublist [number] := by
  rw [nextReports]
  split
  · exact List.nil_sublist _
  · rw [ownLines_append, ownLines_endTableReports, List.nil_append]
    exact ownLines_makeReports _

/-- Lines are reported in their order, and each of them at most once. -/
theorem ownLines_courseReports (lines : List Text) :
    (ownLines (state.courseReports options registry number lines)).Sublist
      (List.range' number lines.length) := by
  induction lines generalizing number state with
  | nil =>
      rw [courseReports, ownLines_closeReports]
      exact List.nil_sublist _
  | cons line lines ih =>
      rw [courseReports, ownLines_append, List.length_cons, List.range'_succ]
      exact ownLines_nextReports.append ih

/-- The lines on which the open blocks and the open table started. -/
def openLines (state : State) : List Nat :=
  state.table.toList.map OpenTable.line ++ state.frames.map Frame.line

variable (place : Nat)

theorem count_putReports_le (number : Nat) (block : Block) (state : State) :
    (state.putReports number block).count (.notAScreen place) ≤ [number].count place := by
  rcases state.putReports_cases number block with none | one
  · rw [none]
    exact Nat.zero_le _
  · rw [one, List.count_singleton, List.count_singleton]
    simp

theorem openLines_accept (block : Block) (state : State) :
    (state.accept block).openLines = state.openLines := by
  cases stacked : state.frames with
  | nil => rw [accept_of_frames_eq_nil stacked, openLines, openLines]
  | cons frame outer =>
      cases added : frame.add? block with
      | none => rw [accept_of_add?_eq_none stacked added]
      | some grown =>
          rw [accept_of_add? stacked added]
          simp [openLines, stacked, Frame.line_add? added]

/-- A block that is closed is open no more, and reported at most once. -/
theorem count_popReports_le (state : State) :
    state.popReports.count (.notAScreen place) + state.pop.openLines.count place ≤
      state.openLines.count place := by
  rw [popReports, pop]
  cases stacked : state.frames with
  | nil => simp
  | cons frame outer =>
      have reported := count_putReports_le place frame.line frame.close
        { state with frames := outer }
      simp only [openLines_accept]
      simp only [openLines, stacked, List.map_cons, List.count_append, List.count_cons,
        List.count_nil] at reported ⊢
      omega

theorem count_endTableReports_le (state : State) :
    state.endTableReports.count (.notAScreen place) + state.endTable.openLines.count place ≤
      state.openLines.count place := by
  rw [endTableReports, endTable]
  cases opened : state.table with
  | none => simp
  | some table =>
      have reported := count_putReports_le place table.line table.close
        { state with table := none }
      simp only [openLines_accept]
      simp only [openLines, opened, Option.toList_some, Option.toList_none, List.map_cons,
        List.map_nil, List.count_append, List.count_cons, List.count_nil] at reported ⊢
      omega

theorem count_unwindReports_le (levels : Nat) (state : State) :
    (state.unwindReports levels).count (.notAScreen place) ≤ state.openLines.count place := by
  induction levels generalizing state with
  | zero => exact Nat.zero_le _
  | succ levels ih =>
      have closed := state.count_popReports_le place
      have later := ih state.pop
      rw [unwindReports, List.count_append]
      omega

theorem count_closeReports_le (state : State) :
    state.closeReports.count (.notAScreen place) ≤ state.openLines.count place := by
  have ended := state.count_endTableReports_le place
  have later := state.endTable.count_unwindReports_le place state.endTable.frames.length
  rw [closeReports, List.count_append]
  omega

theorem count_openerReports (opener : Opener) :
    (openerReports number opener).count (.notAScreen place) = 0 := by
  cases opener with
  | table | card | grid | div | screen => rfl
  | workflow directives =>
      rw [openerReports]
      split <;> simp

/-- A move reports no line that no open block started on, its own line apart. -/
theorem count_makeReports_le (state : State) :
    (state.makeReports options registry number line (Move.of number line state)).count
          (.notAScreen place) +
        (state.make (omission options registry) number line
          (Move.of number line state)).openLines.count place ≤
      state.openLines.count place + [number].count place := by
  cases made : Move.of number line state with
  | close =>
      have closed := state.count_popReports_le place
      rw [makeReports, make]
      omega
  | skip => simp [makeReports, make]
  | table =>
      simp only [makeReports, make, openLines, OpenTable.start, Option.toList_some, List.map_cons,
        List.map_nil, List.count_append, List.count_nil]
      omega
  | push frame =>
      obtain ⟨-, opener, opened, found⟩ := Move.of_eq_push made
      have unreported : (state.makeReports options registry number line (.push frame)).count
          (.notAScreen place) = 0 := by
        rw [makeReports, opener?, found]
        exact count_openerReports place opener
      rw [unreported, make, State.push]
      simp only [openLines, List.map_cons, Frame.line_of_frameOf? opened, List.count_append,
        List.count_cons, List.count_nil]
      omega
  | item deep =>
      have unmoved : (state.make (omission options registry) number line (.item deep)).openLines =
          state.openLines := by
        rw [make]
        split
        · rfl
        · exact openLines_accept _ _
      rw [unmoved]
      cases deep with
      | true => simp [makeReports]
      | false =>
          rw [makeReports]
          split
          · simp
          · have reported := count_putReports_le place number (.item (Item.ofLine line).2) state
            omega

theorem count_nextReports_le (state : State) :
    (state.nextReports options registry number line).count (.notAScreen place) +
        (state.next (omission options registry) number line).openLines.count place ≤
      state.openLines.count place + [number].count place := by
  rw [nextReports, next]
  cases taken : state.table.bind fun table => table.add? line with
  | some grown =>
      obtain ⟨table, opened, added⟩ := Option.bind_eq_some_iff.1 taken
      simp [openLines, opened, OpenTable.line_add? added]
  | none =>
      have ended := state.count_endTableReports_le place
      have moved : (state.endTable.makeReports options registry number line
          (Move.of number line state.endTable)).count (.notAScreen place) + _ ≤ _ :=
        state.endTable.count_makeReports_le place
      simp only [List.count_append]
      omega

/-- Whole readings report no line twice that a block started on. -/
theorem count_courseReports_le (lines : List Text) (number : Nat) (state : State) :
    (state.courseReports options registry number lines).count (.notAScreen place) ≤
      state.openLines.count place + (List.range' number lines.length).count place := by
  induction lines generalizing number state with
  | nil =>
      have closed := state.count_closeReports_le place
      rw [courseReports]
      omega
  | cons line lines ih =>
      have stepped : (state.nextReports options registry number line).count (.notAScreen place) +
          (state.next (omission options registry) number line).openLines.count place ≤ _ :=
        state.count_nextReports_le place
      have later := ih (number + 1) (state.next (omission options registry) number line)
      rw [courseReports, List.count_append, List.length_cons, List.range'_succ,
        ← List.singleton_append, List.count_append]
      omega

/-! ## Diagnostics about lines that fail a check -/

variable {content : Text} {failures : List Text}

/-- Where nothing is reported about lines themselves, no line is reported as unreadable. -/
theorem unreadable_not_mem {diagnostics : List Diagnostic} (nothing : ownLines diagnostics = []) :
    .unreadable place content failures ∉ diagnostics := by
  intro member
  have own := mem_ownLines member rfl
  rw [nothing] at own
  exact List.not_mem_nil own

/-- Only the line itself is reported as unreadable, because it is text that fails checks. -/
theorem unreadable_of_mem_makeReports {move : Move}
    (reported : .unreadable place content failures ∈
      state.makeReports options registry number line move) :
    place = number ∧ content = line ∧ (Item.ofLine content).1 = .text ∧
      failures = registry.failures options.checks content ∧ failures ≠ [] := by
  cases move with
  | close => exact absurd reported (unreadable_not_mem place (ownLines_popReports state))
  | skip | table => cases reported
  | push frame =>
      rw [makeReports] at reported
      cases opened : state.opener? line with
      | none => simp [opened] at reported
      | some opener =>
          rw [opened] at reported
          cases opener with
          | table | card | grid | div | screen => cases reported
          | workflow directives =>
              simp only [Option.elim_some, openerReports] at reported
              split at reported <;> simp at reported
  | item deep =>
      cases deep with
      | true => simp [makeReports] at reported
      | false =>
          rw [makeReports] at reported
          split at reported
          · rename_i omitted
            simp only [List.mem_singleton, Diagnostic.unreadable.injEq] at reported
            obtain ⟨rfl, rfl, rfl⟩ := reported
            simp only [omission, Bool.false_or, Bool.and_eq_true, decide_eq_true_eq] at omitted
            exact ⟨rfl, rfl, omitted.2.1, rfl, omitted.2.2⟩
          · exact absurd reported (unreadable_not_mem place (ownLines_putReports _ state))

theorem unreadable_of_mem_nextReports
    (reported : .unreadable place content failures ∈
      state.nextReports options registry number line) :
    place = number ∧ content = line ∧ (Item.ofLine content).1 = .text ∧
      failures = registry.failures options.checks content ∧ failures ≠ [] := by
  rw [nextReports] at reported
  split at reported
  · cases reported
  · rcases List.mem_append.1 reported with ended | moved
    · exact absurd ended (unreadable_not_mem place (ownLines_endTableReports state))
    · exact unreadable_of_mem_makeReports place moved

theorem unreadable_of_mem_courseReports {lines : List Text}
    (reported : .unreadable place content failures ∈
      state.courseReports options registry number lines) :
    number ≤ place ∧ lines[place - number]? = some content ∧ (Item.ofLine content).1 = .text ∧
      failures = registry.failures options.checks content ∧ failures ≠ [] := by
  induction lines generalizing number state with
  | nil => exact absurd reported (unreadable_not_mem place (ownLines_closeReports state))
  | cons line lines ih =>
      rcases List.mem_append.1 reported with here | later
      · obtain ⟨rfl, rfl, failing⟩ := unreadable_of_mem_nextReports place here
        exact ⟨Nat.le_refl _, by simp, failing⟩
      · obtain ⟨behind, found, failing⟩ := ih later
        have shifted : place - number = place - (number + 1) + 1 := by omega
        refine ⟨by omega, ?_, failing⟩
        rw [shifted, List.getElem?_cons_succ]
        exact found

end State

/-! ## Texts -/

section Strict

variable (strict : options.strict = true) (text : Text)

include strict

theorem ownLines_read :
    (ownLines (read options registry text).diagnostics).Sublist
      (List.range' 1 (lines text).length) := by
  have ordered : (ownLines (State.empty.courseReports options registry 1
      ((lines text).map (prepare options)))).Sublist _ := State.ownLines_courseReports _
  rwa [← read_diagnostics strict, List.length_map] at ordered

theorem count_read_le (number : Nat) :
    (read options registry text).diagnostics.count (.notAScreen number) ≤
      (List.range' 1 (lines text).length).count number := by
  have bounded : (State.empty.courseReports options registry 1
      ((lines text).map (prepare options))).count (.notAScreen number) ≤ _ :=
    State.count_courseReports_le number _ _ _
  rw [← read_diagnostics strict] at bounded
  simpa [State.openLines, State.empty] using bounded

/-- Every diagnostic is about a line of the text. -/
theorem line_mem_range'_of_mem_read {diagnostic : Diagnostic}
    (member : diagnostic ∈ (read options registry text).diagnostics) :
    diagnostic.line ∈ List.range' 1 (lines text).length := by
  cases kind : diagnostic.isNotAScreen with
  | false => exact (ownLines_read strict text).subset (mem_ownLines member kind)
  | true =>
      cases diagnostic with
      | notAScreen number =>
          have present := List.count_pos_iff.2 member
          exact List.count_pos_iff.1
            (Nat.lt_of_lt_of_le present (count_read_le strict text number))
      | unreadable | badDirectives | tooDeep => cases kind

end Strict

theorem errors_getD (reading : Reading) : reading.document.errors.getD [] = reading.messages := by
  rw [document, messages]
  cases reading.diagnostics <;> rfl

/-- What strict reading reports is sound, in order and without repetition. Every diagnostic names a
line of the text. A line that is reported as unreadable is that line as it was read, no rule reads
it, and the failures are those of the checks that were asked for. Apart from blocks that are not
screens, the diagnostics name lines in their order and none of them twice; and no block that is not
a screen is reported twice. -/
theorem read_strict_diagnostics (options : Options) (registry : Registry) (text : Text)
    (strict : options.strict = true) :
    let reading := read options registry text
    let own := reading.diagnostics.filter fun diagnostic => !diagnostic.isNotAScreen
    reading.document.errors.getD [] = reading.diagnostics.map Diagnostic.message ∧
      (∀ diagnostic ∈ reading.diagnostics,
        1 ≤ diagnostic.line ∧ diagnostic.line ≤ (lines text).length) ∧
      (∀ number content failures, .unreadable number content failures ∈ reading.diagnostics →
        ((lines text).map (prepare options))[number - 1]? = some content ∧
          (∃ item, Item.classify content = .ok (.text, item)) ∧
          failures = registry.failures options.checks content ∧ failures ≠ [] ∧
          (Diagnostic.unreadable number content failures).message =
            "Line ".toList ++ Text.ofNat number ++ ": Unable to parse \"".toList ++ content ++
              "\" (".toList ++ Text.joined "; ".toList failures ++ ")".toList) ∧
      (own.map Diagnostic.line).Pairwise (· < ·) ∧
      ∀ number, reading.diagnostics.count (.notAScreen number) ≤ 1 := by
  intro reading own
  refine ⟨errors_getD reading, ?_, ?_, ?_, ?_⟩
  · intro diagnostic member
    have listed := List.mem_range'_1.1 (line_mem_range'_of_mem_read strict text member)
    omega
  · intro number content failures member
    rw [read_diagnostics strict] at member
    obtain ⟨-, found, decided, failing, nonempty⟩ :=
      State.unreadable_of_mem_courseReports number member
    have classified := classify_of_mem_lines content (List.mem_of_getElem? found)
    refine ⟨found, ⟨(Item.ofLine content).2, ?_⟩, failing, nonempty,
      Diagnostic.message_unreadable number content failures⟩
    rw [classified, ← decided]
  · exact List.Pairwise.sublist (ownLines_read strict text) List.pairwise_lt_range'
  · intro number
    calc
      reading.diagnostics.count (.notAScreen number) ≤
          (List.range' 1 (lines text).length).count number := count_read_le strict text number
      _ ≤ 1 := List.nodup_iff_count_le_one.1 List.nodup_range' number

/-- A workflow with bad directives holds a table, and is followed by a closer that closes
nothing. -/
theorem read_strict_diagnostics_workflow :
    (read { strict := true } Registry.builtin "[workflow =\n|x|\n]\n]".toList).diagnostics =
        [.badDirectives 1 "=".toList, .notAScreen 2, .unreadable 4 "]".toList
          ["unbalanced brackets (0 '[' vs 1 ']')".toList,
            "closing delimiter ']' has no matching opener".toList]] ∧
      (∃ item, Item.classify "]".toList = .ok (.text, item)) ∧
      ["unbalanced brackets (0 '[' vs 1 ']')".toList,
          "closing delimiter ']' has no matching opener".toList] =
        Registry.builtin.failures none "]".toList := by
  have reported : (read { strict := true } Registry.builtin
      "[workflow =\n|x|\n]\n]".toList).diagnostics =
        [.badDirectives 1 "=".toList, .notAScreen 2, .unreadable 4 "]".toList
          ["unbalanced brackets (0 '[' vs 1 ']')".toList,
            "closing delimiter ']' has no matching opener".toList]] := by decide +kernel
  obtain ⟨-, -, unreadable, -⟩ := read_strict_diagnostics { strict := true } Registry.builtin
    "[workflow =\n|x|\n]\n]".toList rfl
  rw [reported] at unreadable
  obtain ⟨-, classified, failing, -⟩ := unreadable _ _ _ (.tail _ (.tail _ (.head _)))
  exact ⟨reported, classified, failing⟩

end Reading

end Mockup
