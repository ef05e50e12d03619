import Mockup.Proofs.Reading.Course

/-!
# What strict reading reports

The diagnostics of a strict reading follow the course of its states. What is reported about a line
depends on the move that the line makes: closing a block may show that the block stands in a
workflow and is not a screen, opening a workflow may fail to read its directives, and a line that
is read as an item may open one block too many, fail a check, or stand in a workflow itself.
-/

namespace Mockup.Reading

variable {options : Options} {registry : Registry} {number : Nat} {line : Text}

/-- The diagnostics among notes. -/
def refusals (notes : List Note) : List Diagnostic :=
  notes.filterMap fun
    | .event _ => none
    | .diagnostic diagnostic => some diagnostic

@[simp] theorem refusals_nil : refusals [] = [] := rfl

@[simp] theorem refusals_event_cons (event : Event) (notes : List Note) :
    refusals (.event event :: notes) = refusals notes := rfl

@[simp] theorem refusals_diagnostic_cons (diagnostic : Diagnostic) (notes : List Note) :
    refusals (.diagnostic diagnostic :: notes) = diagnostic :: refusals notes := rfl

@[simp] theorem refusals_append (front rest : List Note) :
    refusals (front ++ rest) = refusals front ++ refusals rest :=
  List.filterMap_append

/-- What is reported about an opener: the directives of a workflow may be unreadable. -/
def openerReports (number : Nat) : Opener → List Diagnostic
  | .workflow directives =>
      match Directives.read directives with
      | .ok _ => []
      | .error _ => [.badDirectives number directives]
  | .table | .card _ | .grid _ | .div _ | .screen _ => []

namespace State

/-- What a line opens in a state. -/
def opener? (line : Text) (state : State) : Option Opener :=
  if state.inWorkflow then Opener.ofWorkflowLine? line else Opener.ofLine? line

/-- What is reported about a block that started on line `number`, when it is put where it
belongs. -/
def putReports (number : Nat) (block : Block) (state : State) : List Diagnostic :=
  match state.frames with
  | [] => []
  | frame :: _ => if (frame.add? block).isSome then [] else [.notAScreen number]

theorem putReports_cases (number : Nat) (block : Block) (state : State) :
    state.putReports number block = [] ∨ state.putReports number block = [.notAScreen number] := by
  rw [putReports]
  split
  · exact .inl rfl
  · split
    · exact .inl rfl
    · exact .inr rfl

/-- What is reported when the innermost block is closed. -/
def popReports (state : State) : List Diagnostic :=
  match state.frames with
  | [] => []
  | frame :: outer => putReports frame.line frame.close { state with frames := outer }

/-- What is reported when the open table is closed. -/
def endTableReports (state : State) : List Diagnostic :=
  match state.table with
  | none => []
  | some table => putReports table.line table.close { state with table := none }

/-- What is reported about a move. -/
def makeReports (options : Options) (registry : Registry) (number : Nat) (line : Text)
    (state : State) : Move → List Diagnostic
  | .close => state.popReports
  | .skip | .table => []
  | .push _ => (state.opener? line).elim [] (openerReports number)
  | .item true => [.tooDeep number]
  | .item false =>
      if omission options registry line false then
        [.unreadable number line (registry.failures options.checks line)]
      else state.putReports number (.item (Item.ofLine line).2)

/-- What is reported about a line. -/
def nextReports (options : Options) (registry : Registry) (number : Nat) (line : Text)
    (state : State) : List Diagnostic :=
  match state.table.bind fun table => table.add? line with
  | some _ => []
  | none =>
      state.endTableReports ++
        state.endTable.makeReports options registry number line (Move.of number line state.endTable)

/-- What is reported when up to `count` of the open blocks are closed. -/
def unwindReports : (count : Nat) → State → List Diagnostic
  | 0, _ => []
  | count + 1, state => state.popReports ++ unwindReports count state.pop

/-- What is reported at the end of the document. -/
def closeReports (state : State) : List Diagnostic :=
  state.endTableReports ++ unwindReports state.endTable.frames.length state.endTable

/-- What is reported about all of the lines, which are numbered from `number` on, and at the end. -/
def courseReports (options : Options) (registry : Registry) :
    Nat → List Text → State → List Diagnostic
  | _, [], state => state.closeReports
  | number, line :: lines, state =>
      state.nextReports options registry number line ++
        courseReports options registry (number + 1) lines
          (state.next (omission options registry) number line)

end State

section Strict

variable (strict : options.strict = true)

include strict

theorem refusals_diagnose (diagnostic : Diagnostic) :
    refusals (diagnose options diagnostic) = [diagnostic] := by
  rw [diagnose, if_pos strict]
  rfl

theorem refusals_put (block : Block) (state : State) :
    refusals (state.put options number block).2 = state.putReports number block := by
  rw [State.put, State.putReports]
  cases state.frames with
  | nil => rfl
  | cons frame outer =>
      cases added : frame.add? block with
      | some grown => simp [added]
      | none => simp [added, refusals_diagnose strict]

theorem refusals_closeFrame (state : State) :
    refusals (state.closeFrame options).2 = state.popReports := by
  rw [State.closeFrame, State.popReports]
  cases state.frames with
  | nil => rfl
  | cons frame outer => exact refusals_put strict _ _

theorem refusals_closeTable (state : State) :
    refusals (state.closeTable options).2 = state.endTableReports := by
  rw [State.closeTable, State.endTableReports]
  cases state.table with
  | none => rfl
  | some table => exact refusals_put strict _ _

theorem refusals_readItem (state : State) :
    refusals (readItem options registry number line state).2 =
      state.makeReports options registry number line (.item false) := by
  simp only [readItem, State.makeReports, omission, strict, and_true, Bool.true_and,
    Bool.false_or, decide_eq_true_eq]
  by_cases decided : (Item.ofLine line).1 = .text
  · by_cases failing : registry.failures options.checks line = []
    · simp [decided, failing, refusals_put strict]
    · simp [decided, failing]
  · simp [decided, refusals_put strict]

theorem refusals_openFrame? {opener : Opener} {frame : Frame} {notes : List Note}
    (opened : openFrame? options number opener = some (frame, notes)) :
    refusals notes = openerReports number opener := by
  cases opener with
  | table => cases opened
  | card | grid | div | screen =>
      cases opened
      rfl
  | workflow directives =>
      simp only [openFrame?, readInitial, Option.some.injEq, Prod.mk.injEq] at opened
      rw [← opened.2, openerReports]
      cases Directives.read directives with
      | ok settings => rfl
      | error fault => simp [refusals_diagnose strict]

theorem refusals_readOpener {opener : Opener} {state : State}
    (opened : state.opener? line = some opener) :
    refusals (readOpener options registry number line opener state).2 =
      state.makeReports options registry number line
        (match frameOf? number opener with
          | none => .table
          | some frame =>
              if state.frames.length < nestingLimit then .push frame else .item true) := by
  rw [readOpener, ← State.openFrame?_fst options]
  cases framed : openFrame? options number opener with
  | none => rfl
  | some opening =>
      obtain ⟨frame, notes⟩ := opening
      simp only [Option.map_some, strict, if_true]
      split
      · simp only [State.makeReports, opened, Option.elim_some]
        exact refusals_openFrame? strict framed
      · rfl

theorem refusals_readLine (state : State) :
    refusals (readLine options registry number line state).2 =
      state.makeReports options registry number line (Move.of number line state) := by
  rw [readLine, Move.of]
  split
  · exact refusals_closeFrame strict state
  · split
    · rfl
    · split
      · rename_i opener opened
        rw [opened]
        exact refusals_readOpener strict opened
      · rename_i unopened
        rw [unopened]
        exact refusals_readItem strict state

theorem refusals_step (state : State) :
    refusals (step options registry number line state).2 =
      state.nextReports options registry number line := by
  rw [step, State.nextReports]
  cases state.table.bind fun table => table.add? line with
  | some table => rfl
  | none =>
      simp [refusals_closeTable strict, refusals_readLine strict, State.closeTable_fst]

theorem refusals_closeFrames (count : Nat) (state : State) :
    refusals (closeFrames options count state).2 = state.unwindReports count := by
  induction count generalizing state with
  | zero => rfl
  | succ count ih =>
      rw [closeFrames, State.unwindReports]
      cases stacked : state.frames with
      | nil =>
          have still : refusals (closeFrames options count state).2 = [] := by
            cases count <;> simp [closeFrames, stacked]
          rw [State.pop_of_frames_eq_nil stacked, ← ih, still]
          simp [State.popReports, stacked]
      | cons frame outer =>
          simp [refusals_closeFrame strict, State.closeFrame_fst, ih]

theorem refusals_finish (state : State) :
    refusals (finish options state).2 = state.closeReports := by
  simp [finish, State.closeReports, refusals_closeTable strict, refusals_closeFrames strict,
    State.closeTable_fst]

theorem refusals_run (lines : List Text) (number : Nat) (state : State) :
    refusals (run options registry number lines state).2 =
      state.courseReports options registry number lines := by
  induction lines generalizing number state with
  | nil => exact refusals_finish strict state
  | cons line lines ih =>
      rw [run, State.courseReports, ← State.step_fst, ← ih, ← refusals_step strict]
      exact refusals_append _ _

/-- The diagnostics of a strict reading are those along its course. -/
theorem read_diagnostics (text : Text) :
    (read options registry text).diagnostics =
      State.empty.courseReports options registry 1 ((lines text).map (prepare options)) := by
  rw [← refusals_run strict]
  rfl

end Strict

end Mockup.Reading
