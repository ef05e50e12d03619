import Mockup.Proofs.Reading.Course

/-!
# The numbers of lines

The numbers of lines show up in what a reading reports, and nowhere else: open blocks remember them
for that purpose only. Numbering the lines of a text in another way therefore gives the same
document with renumbered reports. So that any numbering can be used, readings are taken here over
lines that come with their numbers. The blocks that are finished already play no part either.
-/

namespace Mockup

/-- The diagnostic when the lines are numbered in another way. -/
def Diagnostic.renumbered (renumber : Nat → Nat) : Diagnostic → Diagnostic
  | .unreadable line content failures => .unreadable (renumber line) content failures
  | .badDirectives line directives => .badDirectives (renumber line) directives
  | .tooDeep line => .tooDeep (renumber line)
  | .notAScreen line => .notAScreen (renumber line)

/-- The event when the lines are numbered in another way. Most of what is logged about single lines
does not give their numbers. -/
def Event.renumbered (renumber : Nat → Nat) : Event → Event
  | .tooDeep line => .tooDeep (renumber line)
  | .badDirectives line fault => .badDirectives (renumber line) fault
  | .dropped kind line => .dropped kind (renumber line)
  | .unterminated kind line => .unterminated kind (renumber line)
  | event => event

def Note.renumbered (renumber : Nat → Nat) : Note → Note
  | .event logged => .event (logged.renumbered renumber)
  | .diagnostic refused => .diagnostic (refused.renumbered renumber)

/-- What a renumbered diagnostic says, and about which line. -/
theorem Diagnostic.message_renumbered (renumber : Nat → Nat) (diagnostic : Diagnostic) :
    (diagnostic.renumbered renumber).message =
      "Line ".toList ++ Text.ofNat (renumber diagnostic.line) ++ ": ".toList ++
        diagnostic.reason := by
  cases diagnostic <;> rfl

namespace Frame

/-- The open block when the lines are numbered in another way. -/
def renumbered (renumber : Nat → Nat) : Frame → Frame
  | .box line outer children => .box (renumber line) outer children
  | .screen line id children => .screen (renumber line) id children
  | .workflow line initial screens => .workflow (renumber line) initial screens

variable (renumber : Nat → Nat) (frame : Frame)

@[simp] theorem line_renumbered : (frame.renumbered renumber).line = renumber frame.line := by
  cases frame <;> rfl

@[simp] theorem kind_renumbered : (frame.renumbered renumber).kind = frame.kind := by
  cases frame <;> rfl

@[simp] theorem isWorkflow_renumbered :
    (frame.renumbered renumber).isWorkflow = frame.isWorkflow := by
  cases frame <;> rfl

@[simp] theorem closer_renumbered : (frame.renumbered renumber).closer = frame.closer := by
  rw [closer, closer, kind_renumbered]

@[simp] theorem close_renumbered : (frame.renumbered renumber).close = frame.close := by
  cases frame <;> rfl

@[simp] theorem add?_renumbered (block : Block) :
    (frame.renumbered renumber).add? block = (frame.add? block).map (renumbered renumber) := by
  cases frame with
  | box | screen => rfl
  | workflow line initial screens => cases block <;> rfl

end Frame

namespace OpenTable

/-- The open table when the lines are numbered in another way. -/
def renumbered (renumber : Nat → Nat) (table : OpenTable) : OpenTable :=
  { table with line := renumber table.line }

variable (renumber : Nat → Nat) (table : OpenTable)

@[simp] theorem line_renumbered : (table.renumbered renumber).line = renumber table.line := rfl

@[simp] theorem close_renumbered : (table.renumbered renumber).close = table.close := rfl

@[simp] theorem add?_renumbered (line : Text) :
    (table.renumbered renumber).add? line = (table.add? line).map (renumbered renumber) := by
  rw [add?, add?, renumbered]
  by_cases separator : table.fresh ∧ line.contains '-' ∧ line.contains '|'
  · rw [if_pos separator, if_pos separator]
    rfl
  · rw [if_neg separator, if_neg separator]
    split <;> rfl

end OpenTable

namespace Reading

namespace State

/-- The state when the lines are numbered in another way, and when the blocks of `base` have been
finished before. -/
def renumbered (renumber : Nat → Nat) (base : List Block) (state : State) : State where
  frames := state.frames.map (Frame.renumbered renumber)
  table := state.table.map (OpenTable.renumbered renumber)
  finished := state.finished ++ base

end State

/-- A renumbered state, with what is reported renumbered along with it. -/
def renumberedOutcome (renumber : Nat → Nat) (base : List Block) (outcome : State × List Note) :
    State × List Note :=
  (outcome.1.renumbered renumber base, outcome.2.map (Note.renumbered renumber))

variable {options : Options} {registry : Registry} {number : Nat} {line : Text}
variable (renumber : Nat → Nat) (base : List Block) (state : State)

theorem diagnose_renumbered (diagnostic : Diagnostic) :
    diagnose options (diagnostic.renumbered renumber) =
      (diagnose options diagnostic).map (Note.renumbered renumber) := by
  rw [diagnose, diagnose]
  split <;> rfl

namespace State

@[simp] theorem inWorkflow_renumbered :
    (state.renumbered renumber base).inWorkflow = state.inWorkflow := by
  rw [inWorkflow, inWorkflow, renumbered]
  cases state.frames <;> simp

theorem put_renumbered (block : Block) :
    (state.renumbered renumber base).put options (renumber number) block =
      renumberedOutcome renumber base (state.put options number block) := by
  rw [put, put]
  cases stacked : state.frames with
  | nil => simp [renumbered, renumberedOutcome, stacked]
  | cons frame outer =>
      cases added : frame.add? block with
      | some grown => simp [renumbered, renumberedOutcome, stacked, added]
      | none =>
          have reported : diagnose options (.notAScreen (renumber number)) = _ :=
            diagnose_renumbered renumber (.notAScreen number)
          simp [renumbered, renumberedOutcome, stacked, added, Note.renumbered, Event.renumbered,
            reported]

theorem closeFrame_renumbered :
    (state.renumbered renumber base).closeFrame options =
      renumberedOutcome renumber base (state.closeFrame options) := by
  rw [closeFrame, closeFrame]
  cases stacked : state.frames with
  | nil => simp [renumbered, renumberedOutcome, stacked]
  | cons frame outer =>
      have inner : put options (renumber frame.line) frame.close
          (renumbered renumber base { state with frames := outer }) = _ :=
        put_renumbered renumber base { state with frames := outer } frame.close
      simpa [renumbered, stacked] using inner

theorem closeTable_renumbered :
    (state.renumbered renumber base).closeTable options =
      renumberedOutcome renumber base (state.closeTable options) := by
  rw [closeTable, closeTable]
  cases opened : state.table with
  | none => simp [renumbered, renumberedOutcome, opened]
  | some table =>
      have inner : put options (renumber table.line) table.close
          (renumbered renumber base { state with table := none }) = _ :=
        put_renumbered renumber base { state with table := none } table.close
      simpa [renumbered, opened] using inner

end State

/-! ## Lines -/

theorem readItem_renumbered :
    readItem options registry (renumber number) line (state.renumbered renumber base) =
      renumberedOutcome renumber base (readItem options registry number line state) := by
  have logged : ∀ rule, (if rule = Rule.text then Event.fellBack line
      else .classified line rule).renumbered renumber =
        if rule = Rule.text then Event.fellBack line else .classified line rule := by
    intro rule
    split <;> rfl
  simp only [readItem, State.put_renumbered]
  generalize (if (Item.ofLine line).1 = .text ∧ options.strict = true then
    registry.failures options.checks line else []) = failures
  by_cases accepted : failures = []
  · simp [accepted, renumberedOutcome, Note.renumbered, logged]
  · simp [accepted, renumberedOutcome, Note.renumbered, logged, Diagnostic.renumbered]

theorem readInitial_renumbered (directives : Text) :
    readInitial options (renumber number) directives =
      ((readInitial options number directives).1,
        (readInitial options number directives).2.map (Note.renumbered renumber)) := by
  rw [readInitial, readInitial]
  cases Directives.read directives with
  | ok settings => rfl
  | error fault =>
      have reported : diagnose options (.badDirectives (renumber number) directives) = _ :=
        diagnose_renumbered renumber (.badDirectives number directives)
      simp [Note.renumbered, Event.renumbered, reported]

theorem openFrame?_renumbered (opener : Opener) :
    openFrame? options (renumber number) opener =
      (openFrame? options number opener).map fun (frame, notes) =>
        (frame.renumbered renumber, notes.map (Note.renumbered renumber)) := by
  cases opener with
  | table | card | grid | div | screen => rfl
  | workflow directives => simp [openFrame?, readInitial_renumbered, Frame.renumbered]

theorem readOpener_renumbered (opener : Opener) :
    readOpener options registry (renumber number) line opener (state.renumbered renumber base) =
      renumberedOutcome renumber base (readOpener options registry number line opener state) := by
  rw [readOpener, readOpener, openFrame?_renumbered]
  have sameLength : (state.renumbered renumber base).frames.length = state.frames.length := by
    simp [State.renumbered]
  cases openFrame? options number opener with
  | none => rfl
  | some opening =>
      obtain ⟨frame, notes⟩ := opening
      simp only [Option.map_some, sameLength]
      split
      · rfl
      · split
        · rfl
        · rw [readItem_renumbered]
          rfl

theorem readLine_renumbered :
    readLine options registry (renumber number) line (state.renumbered renumber base) =
      renumberedOutcome renumber base (readLine options registry number line state) := by
  have sameCloser :
      ((state.renumbered renumber base).frames.head?.any fun frame => frame.closer = line) =
        state.frames.head?.any fun frame => frame.closer = line := by
    rw [State.renumbered]
    cases state.frames <;> simp
  rw [readLine, readLine, sameCloser, State.inWorkflow_renumbered]
  split
  · exact State.closeFrame_renumbered renumber base state
  · split
    · rfl
    · split
      · exact readOpener_renumbered renumber base state _
      · exact readItem_renumbered renumber base state

/-- What a line does does not depend on its number. -/
theorem step_renumbered :
    step options registry (renumber number) line (state.renumbered renumber base) =
      renumberedOutcome renumber base (step options registry number line state) := by
  rw [step, step]
  have sameTable : ((state.renumbered renumber base).table.bind fun table => table.add? line) =
      (state.table.bind fun table => table.add? line).map (OpenTable.renumbered renumber) := by
    rw [State.renumbered]
    cases state.table <;> simp
  rw [sameTable]
  cases state.table.bind fun table => table.add? line with
  | some table => rfl
  | none => simp [State.closeTable_renumbered, renumberedOutcome, readLine_renumbered]

theorem closeFrames_renumbered (levels : Nat) :
    closeFrames options levels (state.renumbered renumber base) =
      renumberedOutcome renumber base (closeFrames options levels state) := by
  induction levels generalizing state with
  | zero => rfl
  | succ levels ih =>
      rw [closeFrames, closeFrames]
      cases stacked : state.frames with
      | nil => simp [State.renumbered, renumberedOutcome, stacked]
      | cons frame outer =>
          have head : (state.renumbered renumber base).frames =
              frame.renumbered renumber :: outer.map (Frame.renumbered renumber) := by
            simp [State.renumbered, stacked]
          simp [head, State.closeFrame_renumbered, renumberedOutcome, ih, Note.renumbered,
            Event.renumbered]

theorem finish_renumbered :
    finish options (state.renumbered renumber base) =
      renumberedOutcome renumber base (finish options state) := by
  have sameLength : ∀ state : State, (state.renumbered renumber base).frames.length =
      state.frames.length := by
    intro state
    simp [State.renumbered]
  simp [finish, State.closeTable_renumbered, renumberedOutcome, sameLength, closeFrames_renumbered]

/-- Reads lines that come with their numbers, to the end of the document. -/
def runNumbered (options : Options) (registry : Registry) :
    List (Text × Nat) → State → State × List Note
  | [], state => finish options state
  | (line, number) :: lines, state =>
      let (state, notes) := step options registry number line state
      let (state, more) := runNumbered options registry lines state
      (state, notes ++ more)

/-- Readings number the lines one after the other. -/
theorem run_eq_runNumbered (lines : List Text) (number : Nat) :
    run options registry number lines state =
      runNumbered options registry (lines.zipIdx number) state := by
  induction lines generalizing number state with
  | nil => rfl
  | cons line lines ih => simp [run, runNumbered, ih]

theorem runNumbered_renumbered (lines : List (Text × Nat)) :
    runNumbered options registry (lines.map (Prod.map id renumber))
        (state.renumbered renumber base) =
      renumberedOutcome renumber base (runNumbered options registry lines state) := by
  induction lines generalizing state with
  | nil => exact finish_renumbered renumber base state
  | cons entry lines ih =>
      obtain ⟨line, number⟩ := entry
      simp [runNumbered, step_renumbered, renumberedOutcome, ih]

/-- The diagnostics among renumbered notes. -/
theorem diagnostics_renumbered {first second : Reading}
    (renumbered : second.notes = first.notes.map (Note.renumbered renumber)) :
    second.diagnostics = first.diagnostics.map (Diagnostic.renumbered renumber) := by
  rw [diagnostics, renumbered, List.filterMap_map, diagnostics, List.map_filterMap]
  congr 1
  funext note
  cases note <;> rfl

end Reading

end Mockup
