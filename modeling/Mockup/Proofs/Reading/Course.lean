import Mockup.Proofs.Reading

/-!
# The course of states

The states that a reading goes through, apart from what is reported. Each line makes one of five
moves, which the open blocks and the line decide alone; options and checks only decide which of the
lines that are read as items are left out. Two readings of one text therefore differ in nothing but
the lines they leave out, and every invariant of readings is a fact about the five moves.
-/

namespace Mockup.Reading

/-- What a line does that belongs to no table. -/
inductive Move where
  /-- It closes the innermost block. -/
  | close
  /-- It is blank. -/
  | skip
  /-- It starts a table. -/
  | table
  | push (frame : Frame)
  /-- It is read as an item; `deep` says that it would open a block if there was room for one. -/
  | item (deep : Bool)

/-- The frame that an opener opens. -/
def frameOf? (number : Nat) (opener : Opener) : Option Frame :=
  (openFrame? {} number opener).map Prod.fst

/-- The move that a line makes. -/
def Move.of (number : Nat) (line : Text) (state : State) : Move :=
  if state.frames.head?.any fun frame => frame.closer = line then .close
  else if Text.allBlank line then .skip
  else
    match (if state.inWorkflow then Opener.ofWorkflowLine? line else Opener.ofLine? line) with
    | none => .item false
    | some opener =>
        match frameOf? number opener with
        | none => .table
        | some frame => if state.frames.length < nestingLimit then .push frame else .item true

/-- What a line opens, it opens where it may, and there is room for it. -/
theorem Move.of_eq_push {number : Nat} {line : Text} {state : State} {frame : Frame}
    (pushed : Move.of number line state = .push frame) :
    state.frames.length < nestingLimit ∧ ∃ opener, frameOf? number opener = some frame ∧
      (if state.inWorkflow then Opener.ofWorkflowLine? line else Opener.ofLine? line) =
        some opener := by
  rw [Move.of] at pushed
  split at pushed
  · cases pushed
  · split at pushed
    · cases pushed
    · split at pushed
      · cases pushed
      · rename_i opener opened
        split at pushed
        · cases pushed
        · rename_i opening framed
          split at pushed
          · rename_i room
            injection pushed with same
            exact ⟨room, opener, by rw [framed, same], opened⟩
          · cases pushed

/-- Blank lines are never read as items. -/
theorem Move.of_eq_item {number : Nat} {line : Text} {state : State} {deep : Bool}
    (read : Move.of number line state = .item deep) : Text.allBlank line = false := by
  rw [Move.of] at read
  split at read
  · cases read
  · split at read
    · cases read
    · rename_i filled
      exact eq_false_of_ne_true filled

/-- Which lines are left out, of those that are read as items. -/
abbrev Omission := Text → Bool → Bool

/-- The lines that a reading with the given options leaves out: in strict reading those that would
open one block too many, and those that are text and fail a check. -/
def omission (options : Options) (registry : Registry) : Omission := fun line deep =>
  options.strict &&
    (deep || decide ((Item.ofLine line).1 = .text ∧ registry.failures options.checks line ≠ []))

namespace State

variable {options : Options} {registry : Registry} {number : Nat} {line : Text} {state : State}

/-- The state without its innermost block, which is put where it belongs. -/
def pop (state : State) : State :=
  match state.frames with
  | [] => state
  | frame :: outer => accept frame.close { state with frames := outer }

/-- The state without its open table, which is put where it belongs. -/
def endTable (state : State) : State :=
  match state.table with
  | none => state
  | some table => accept table.close { state with table := none }

/-- The state after a move. -/
def make (omitted : Omission) (number : Nat) (line : Text) (state : State) : Move → State
  | .close => state.pop
  | .skip => state
  | .table => { state with table := some (.start number line) }
  | .push frame => state.push frame
  | .item deep =>
      if omitted line deep then state else state.accept (.item (Item.ofLine line).2)

/-- The state after a line. -/
def next (omitted : Omission) (number : Nat) (line : Text) (state : State) : State :=
  match state.table.bind fun table => table.add? line with
  | some table => { state with table := some table }
  | none => state.endTable.make omitted number line (Move.of number line state.endTable)

/-- The state with up to `count` of its open blocks closed. -/
def unwind : (count : Nat) → State → State
  | 0, state => state
  | count + 1, state => unwind count state.pop

/-- The state at the end of the document. -/
def close (state : State) : State :=
  unwind state.endTable.frames.length state.endTable

/-- The state after all of the lines, which are numbered from `number` on, with everything
closed. -/
def course (omitted : Omission) : Nat → List Text → State → State
  | _, [], state => state.close
  | number, line :: lines, state =>
      course omitted (number + 1) lines (state.next omitted number line)

theorem closeFrame_fst (state : State) : (state.closeFrame options).1 = state.pop := by
  rw [closeFrame, pop]
  cases state.frames with
  | nil => rfl
  | cons frame outer => exact put_fst _ _

theorem closeTable_fst (state : State) : (state.closeTable options).1 = state.endTable := by
  rw [closeTable, endTable]
  cases state.table with
  | none => rfl
  | some table => exact put_fst _ _

theorem pop_of_frames_eq_nil (closed : state.frames = []) : state.pop = state := by
  simp [pop, closed]

theorem closeFrames_fst (count : Nat) (state : State) :
    (closeFrames options count state).1 = state.unwind count := by
  induction count generalizing state with
  | zero => rfl
  | succ count ih =>
      rw [closeFrames, unwind]
      cases stacked : state.frames with
      | nil =>
          have stays : ∀ count, state.unwind count = state := by
            intro count
            induction count with
            | zero => rfl
            | succ count ih => rwa [unwind, pop_of_frames_eq_nil stacked]
          rw [pop_of_frames_eq_nil stacked, stays]
      | cons frame outer =>
          rw [← closeFrame_fst, ← ih]

theorem finish_fst (state : State) : (finish options state).1 = state.close := by
  rw [finish, close, ← closeFrames_fst, ← closeTable_fst]

/-- The frame that an opener opens does not depend on the options. -/
theorem openFrame?_fst (options : Options) (number : Nat) (opener : Opener) :
    (openFrame? options number opener).map Prod.fst = frameOf? number opener := by
  rw [frameOf?]
  cases opener with
  | workflow directives =>
      simp only [openFrame?, readInitial, Option.map_some]
      cases Directives.read directives <;> rfl
  | table | card | grid | div | screen => rfl

theorem readItem_fst (state : State) :
    (readItem options registry number line state).1 =
      state.make (omission options registry) number line (.item false) := by
  simp only [readItem, make, omission, Bool.false_or]
  by_cases checked : (Item.ofLine line).1 = .text ∧ options.strict = true
  · by_cases failing : registry.failures options.checks line = []
    · simp [checked, failing]
    · simp [checked, failing]
  · by_cases strict : options.strict = true
    · have other : (Item.ofLine line).1 ≠ .text := fun text => checked ⟨text, strict⟩
      simp [other]
    · simp [strict]

/-- A line that would open one block too many is an item, unless it is left out. -/
theorem readOpener_fst (opener : Opener) (state : State) :
    (readOpener options registry number line opener state).1 =
      state.make (omission options registry) number line
        (match frameOf? number opener with
          | none => .table
          | some frame =>
              if state.frames.length < nestingLimit then .push frame else .item true) := by
  rw [readOpener, ← openFrame?_fst options]
  cases openFrame? options number opener with
  | none => rfl
  | some opened =>
      obtain ⟨frame, notes⟩ := opened
      simp only [Option.map_some]
      by_cases room : state.frames.length < nestingLimit
      · simp [room, make]
      · cases strict : options.strict with
        | true => simp [room, make, omission, strict]
        | false => simp [room, readItem_fst, make, omission, strict]

theorem readLine_fst (state : State) :
    (readLine options registry number line state).1 =
      state.make (omission options registry) number line (Move.of number line state) := by
  rw [readLine, Move.of]
  split
  · exact closeFrame_fst state
  · split
    · rfl
    · split
      · rename_i opener opened
        rw [opened]
        exact readOpener_fst opener state
      · rename_i unopened
        rw [unopened]
        exact readItem_fst state

theorem step_fst (state : State) :
    (step options registry number line state).1 =
      state.next (omission options registry) number line := by
  rw [step, next]
  cases state.table.bind fun table => table.add? line with
  | some table => rfl
  | none => rw [← readLine_fst, ← closeTable_fst]

/-- Which state a reading ends in depends on the lines that it leaves out, and on no other effect
of its options. -/
theorem run_fst (lines : List Text) (number : Nat) (state : State) :
    (run options registry number lines state).1 =
      state.course (omission options registry) number lines := by
  induction lines generalizing number state with
  | nil => exact finish_fst state
  | cons line lines ih => rw [run, course, ← step_fst, ← ih]

end State

theorem read_blocks (options : Options) (registry : Registry) (text : Text) :
    (read options registry text).blocks =
      (State.empty.course (omission options registry) 1
        ((lines text).map (prepare options))).finished.reverse := by
  rw [← State.run_fst]
  rfl

end Mockup.Reading
