import Mockup.Compile
import Mockup.Proofs.Thinning

/-!
# Strict and lenient reading

Lenient reading refuses nothing. Strict reading reports what it refuses, and refuses no more than
lines that are read as items, so what it reads is the lenient document, thinned. When it reports
nothing it has left out nothing, and the two documents are the same.
-/

namespace Mockup.Reading

variable {options : Options} {registry : Registry} {number : Nat} {line : Text} {state : State}

/-- Nothing is refused by any of the notes. -/
def Quiet (notes : List Note) : Prop :=
  ∀ diagnostic, Note.diagnostic diagnostic ∉ notes

namespace Quiet

@[simp] theorem nil : Quiet [] := by
  simp [Quiet]

@[simp] theorem event_cons {event : Event} {notes : List Note} :
    Quiet (.event event :: notes) ↔ Quiet notes := by
  simp [Quiet]

@[simp] theorem diagnostic_cons {diagnostic : Diagnostic} {notes : List Note} :
    ¬Quiet (.diagnostic diagnostic :: notes) := by
  intro quiet
  exact quiet diagnostic List.mem_cons_self

@[simp] theorem append {front rest : List Note} :
    Quiet (front ++ rest) ↔ Quiet front ∧ Quiet rest := by
  simp [Quiet, forall_and]

end Quiet

theorem diagnostics_eq_nil_iff (reading : Reading) :
    reading.diagnostics = [] ↔ Quiet reading.notes := by
  rw [diagnostics, List.filterMap_eq_nil_iff]
  constructor
  · intro nothing diagnostic reported
    simpa using nothing _ reported
  · intro quiet note reported
    cases note with
    | event event => rfl
    | diagnostic diagnostic => exact absurd reported (quiet diagnostic)

theorem errors_eq_none_iff (reading : Reading) :
    reading.document.errors = none ↔ Quiet reading.notes := by
  rw [← diagnostics_eq_nil_iff, document]
  cases reading.diagnostics <;> simp

section Lenient

variable (lenient : options.strict = false)

include lenient

theorem quiet_diagnose (diagnostic : Diagnostic) : Quiet (diagnose options diagnostic) := by
  simp [diagnose, lenient]

theorem quiet_put (block : Block) (state : State) : Quiet (state.put options number block).2 := by
  rw [State.put]
  cases state.frames with
  | nil => simp
  | cons frame outer =>
      cases added : frame.add? block with
      | some grown => simp [added]
      | none => simp [added, quiet_diagnose lenient]

theorem quiet_closeFrame (state : State) : Quiet (state.closeFrame options).2 := by
  rw [State.closeFrame]
  cases state.frames with
  | nil => simp
  | cons frame outer => exact quiet_put lenient _ _

theorem quiet_closeTable (state : State) : Quiet (state.closeTable options).2 := by
  rw [State.closeTable]
  cases state.table with
  | none => simp
  | some table => exact quiet_put lenient _ _

theorem quiet_readItem (state : State) : Quiet (readItem options registry number line state).2 := by
  simp [readItem, lenient, quiet_put lenient]

theorem quiet_openFrame? {opener : Opener} {frame : Frame} {notes : List Note}
    (opened : openFrame? options number opener = some (frame, notes)) : Quiet notes := by
  cases opener with
  | table => simp [openFrame?] at opened
  | card | grid | div | screen =>
      simp only [openFrame?, Option.some.injEq, Prod.mk.injEq] at opened
      rw [← opened.2]
      exact .nil
  | workflow directives =>
      simp only [openFrame?, readInitial, Option.some.injEq, Prod.mk.injEq] at opened
      rw [← opened.2]
      cases Directives.read directives with
      | ok directives => exact .nil
      | error fault => simp [quiet_diagnose lenient]

theorem quiet_readOpener (opener : Opener) (state : State) :
    Quiet (readOpener options registry number line opener state).2 := by
  rw [readOpener]
  cases opened : openFrame? options number opener with
  | none => simp
  | some opening =>
      obtain ⟨frame, notes⟩ := opening
      by_cases room : state.frames.length < nestingLimit
      · simp [room, quiet_openFrame? lenient opened]
      · simp [room, lenient, quiet_readItem lenient]

theorem quiet_readLine (state : State) : Quiet (readLine options registry number line state).2 := by
  rw [readLine]
  split
  · exact quiet_closeFrame lenient state
  · split
    · exact .nil
    · split
      · exact quiet_readOpener lenient _ state
      · exact quiet_readItem lenient state

theorem quiet_step (state : State) : Quiet (step options registry number line state).2 := by
  rw [step]
  split
  · exact .nil
  · exact Quiet.append.2 ⟨quiet_closeTable lenient _, quiet_readLine lenient _⟩

theorem quiet_closeFrames (count : Nat) (state : State) :
    Quiet (closeFrames options count state).2 := by
  induction count generalizing state with
  | zero => exact .nil
  | succ count ih =>
      rw [closeFrames]
      cases state.frames with
      | nil => exact .nil
      | cons frame outer => simp [quiet_closeFrame lenient, ih]

theorem quiet_finish (state : State) : Quiet (finish options state).2 := by
  rw [finish]
  exact Quiet.append.2 ⟨quiet_closeTable lenient _, quiet_closeFrames lenient _ _⟩

theorem quiet_run (lines : List Text) (number : Nat) (state : State) :
    Quiet (run options registry number lines state).2 := by
  induction lines generalizing number state with
  | nil => exact quiet_finish lenient state
  | cons line lines ih => exact Quiet.append.2 ⟨quiet_step lenient _, ih _ _⟩

end Lenient

/-- Nothing is left out. -/
def keepAll : Omission := fun _ _ => false

theorem not_quiet_of_omission {deep : Bool} (moved : Move.of number line state = .item deep)
    (omitted : omission options registry line deep = true) :
    ¬Quiet (readLine options registry number line state).2 := by
  rw [omission, Bool.and_eq_true] at omitted
  obtain ⟨strict, omitted⟩ := omitted
  rw [Move.of] at moved
  rw [readLine]
  split at moved
  · cases moved
  · rename_i stays
    split at moved
    · cases moved
    · rename_i filled
      rw [if_neg stays, if_neg filled]
      split at moved
      · rename_i unopened
        cases moved
        have failing :
            (Item.ofLine line).1 = .text ∧ registry.failures options.checks line ≠ [] := by
          simpa using omitted
        simp [unopened, readItem, failing, strict]
      · rename_i opener opened
        rw [opened]
        split at moved
        · cases moved
        · rename_i frame framed
          split at moved
          · cases moved
          · rename_i crowded
            rw [← State.openFrame?_fst options, Option.map_eq_some_iff] at framed
            obtain ⟨opening, framed, -⟩ := framed
            simp [readOpener, framed, crowded, strict]

/-- A line that nothing is reported about is not left out. -/
theorem readLine_fst_of_quiet (quiet : Quiet (readLine options registry number line state).2) :
    (readLine options registry number line state).1 =
      state.make keepAll number line (Move.of number line state) := by
  rw [State.readLine_fst]
  cases moved : Move.of number line state with
  | close | skip | table | push => rfl
  | item deep =>
      cases omitted : omission options registry line deep with
      | true => exact absurd quiet (not_quiet_of_omission moved omitted)
      | false => simp [State.make, omitted, keepAll]

theorem step_fst_of_quiet (quiet : Quiet (step options registry number line state).2) :
    (step options registry number line state).1 = state.next keepAll number line := by
  rw [step] at *
  rw [State.next]
  cases added : state.table.bind fun table => table.add? line with
  | some table => rfl
  | none =>
      rw [added] at quiet
      rw [← State.closeTable_fst]
      exact readLine_fst_of_quiet (Quiet.append.1 quiet).2

theorem run_fst_of_quiet {lines : List Text}
    (quiet : Quiet (run options registry number lines state).2) :
    (run options registry number lines state).1 = state.course keepAll number lines := by
  induction lines generalizing number state with
  | nil => exact State.finish_fst state
  | cons line lines ih =>
      have parts := Quiet.append.1 quiet
      rw [State.course, ← step_fst_of_quiet parts.1]
      exact ih parts.2

/-! ## The two documents -/

theorem quiet_read_notes (lenient : options.strict = false) (text : Text) :
    Quiet (read options registry text).notes :=
  quiet_run lenient _ _ _

/-- What two readings of one text read, if one of them leaves out more. -/
theorem thinsAll_read_blocks {spare : Item → Prop} {loose tight : Options} {text : Text}
    {looseRegistry tightRegistry : Registry}
    (sameBlanks : loose.preserveWhitespace = tight.preserveWhitespace)
    (tightens : Tightens spare (omission loose looseRegistry) (omission tight tightRegistry)) :
    Block.ThinsAll spare (read loose looseRegistry text).blocks
      (read tight tightRegistry text).blocks := by
  have samePreparation : prepare loose = prepare tight := by
    funext line
    rw [prepare, prepare, sameBlanks]
  rw [read_blocks, read_blocks, samePreparation]
  have thinned : State.Thins spare State.empty State.empty := .empty
  exact (thinned.course tightens _ _).finished.reverse

theorem read_blocks_of_quiet {text : Text} (quiet : Quiet (read options registry text).notes) :
    (read options registry text).blocks =
      (State.empty.course keepAll 1 ((lines text).map (prepare options))).finished.reverse := by
  rw [← run_fst_of_quiet quiet]
  rfl

/-- Strict reading is lenient reading with lines removed: lenient reading refuses nothing, strict
reading leaves out nothing but items that single lines were read as, and without a refused line it
reads the same document, so that both compile to the same output or fail for the same reason. -/
theorem read_strict_thins_read_lenient (options : Options) (registry : Registry) (text : Text) :
    let lenient := read { options with strict := false } registry text
    let strict := read { options with strict := true } registry text
    lenient.document.errors = none ∧
      Block.ThinsAll (fun item => ∃ line, item = (Item.ofLine line).2)
        lenient.blocks strict.blocks ∧
      (strict.document.errors = none →
        strict.document.blocks = lenient.document.blocks ∧
          ∀ targetName source,
            strict.document.compile targetName source =
              lenient.document.compile targetName source) := by
  intro lenient strict
  have unrefused : lenient.document.errors = none :=
    (errors_eq_none_iff lenient).2 (quiet_read_notes rfl text)
  refine ⟨unrefused, ?_, ?_⟩
  · apply thinsAll_read_blocks
    · rfl
    · constructor
      · intro line deep omitted
        simp [omission] at omitted
      · intro line deep kept omitted
        exact ⟨line, rfl⟩
  · intro accepted
    have sameBlocks : strict.blocks = lenient.blocks := by
      have quiet := (errors_eq_none_iff strict).1 accepted
      have lenientQuiet := (errors_eq_none_iff lenient).1 unrefused
      rw [read_blocks_of_quiet quiet, read_blocks_of_quiet lenientQuiet]
      rfl
    have same : strict.document = lenient.document := by
      rw [Document.mk.injEq]
      exact ⟨sameBlocks, accepted.trans unrefused.symm⟩
    refine ⟨sameBlocks, ?_⟩
    intro targetName source
    rw [same]

/-- A grid with a table in it is read in the same way without a line that is refused and with it;
lenient reading makes a line of text of it. -/
theorem read_strict_thins_read_lenient_grid :
    let text := "[grid 2\n|a|b|\n]".toList
    let refusing := "[grid 2\n|a|b|\n![c](\n]".toList
    let table := Block.table ⟨["a".toList, "b".toList], []⟩
    let grid := fun children => [Block.box (.grid "2".toList) children]
    ((read { strict := true } .builtin text).document = ⟨grid [table], none⟩ ∧
        (read {} .builtin text).document.blocks = grid [table]) ∧
      (read { strict := true } .builtin refusing).document.errors.isSome ∧
      Block.ThinsAll (fun item => ∃ line, item = (Item.ofLine line).2)
        (grid [table, .item (.text [.text "![c](".toList])]) (grid [table]) := by
  intro text refusing table grid
  have accepting : (read { strict := true } .builtin text).document = ⟨grid [table], none⟩ := rfl
  have refused : (read { strict := true } .builtin refusing).document.errors.isSome ∧
      (read { strict := true } .builtin refusing).blocks = grid [table] ∧
      (read {} .builtin refusing).blocks =
        grid [table, .item (.text [.text "![c](".toList])] := by
    decide +kernel
  have accepted := congrArg Document.errors accepting
  have same := ((read_strict_thins_read_lenient {} Registry.builtin text).2.2 accepted).1
  have thinned := (read_strict_thins_read_lenient {} Registry.builtin refusing).2.1
  obtain ⟨complaint, strictBlocks, lenientBlocks⟩ := refused
  rw [strictBlocks, lenientBlocks] at thinned
  exact ⟨⟨accepting, same.symm.trans (congrArg Document.blocks accepting)⟩, complaint, thinned⟩

end Mockup.Reading
