import Mockup.Reading

/-!
# What a line does to the state of a reading

A reading is a sequence of steps and a last tidying up. This module takes the two apart, so that a
run over a text can be cut between any two lines, and says once what a single line does: which
state it leads to and what is reported. What a block does to the state it is put into does not
depend on the options; they only decide what is reported and which lines are left out.
-/

namespace Mockup

namespace Frame

/-- Every kind of block is closed by one of two lines. -/
theorem closerOf_cases (kind : Kind) :
    closerOf kind = "]".toList ∨ closerOf kind = "--]".toList := by
  rw [closerOf]
  split
  · exact .inr rfl
  · exact .inl rfl

theorem closer_cases (frame : Frame) :
    frame.closer = "]".toList ∨ frame.closer = "--]".toList :=
  closerOf_cases frame.kind

/-- How frames take blocks: boxes and screens take any block, and workflows take screens. -/
inductive Takes : Frame → Block → Frame → Prop where
  | box (line : Nat) (outer : Box) (children : List Block) (block : Block) :
      Takes (.box line outer children) block (.box line outer (block :: children))
  | screen (line : Nat) (id : Text) (children : List Block) (block : Block) :
      Takes (.screen line id children) block (.screen line id (block :: children))
  | workflow (line : Nat) (initial : Option Text) (screens : List Screen) (inner : Screen) :
      Takes (.workflow line initial screens) (.screen inner)
        (.workflow line initial (inner :: screens))

/-- There is no other way to take a block. -/
theorem takes_of_add? {frame grown : Frame} {block : Block}
    (added : frame.add? block = some grown) : frame.Takes block grown := by
  cases frame with
  | box | screen =>
      cases added
      constructor
  | workflow line initial screens =>
      cases block with
      | screen inner =>
          cases added
          constructor
      | item | table | box | workflow => cases added

/-- A frame that takes a block stays the kind of frame it is. -/
theorem isWorkflow_add? {frame grown : Frame} {block : Block}
    (added : frame.add? block = some grown) : grown.isWorkflow = frame.isWorkflow := by
  cases takes_of_add? added <;> rfl

/-- Frames outside of workflows take every block. -/
theorem exists_add? {frame : Frame} (plain : frame.isWorkflow = false) (block : Block) :
    ∃ grown, frame.add? block = some grown := by
  cases frame with
  | box | screen => exact ⟨_, rfl⟩
  | workflow => simp [isWorkflow] at plain

end Frame

namespace Reading

variable {options : Options} {registry : Registry} {number : Nat} {line : Text} {state : State}

namespace State

/-- The state with one more block in it. A workflow drops what is not a screen. -/
def accept (block : Block) (state : State) : State :=
  match state.frames with
  | [] => { state with finished := block :: state.finished }
  | frame :: outer =>
      match frame.add? block with
      | some frame => { state with frames := frame :: outer }
      | none => state

theorem accept_of_frames_eq_nil (closed : state.frames = []) (block : Block) :
    state.accept block = { state with finished := block :: state.finished } := by
  simp [accept, closed]

theorem accept_of_add? {frame grown : Frame} {outer : List Frame} {block : Block}
    (stacked : state.frames = frame :: outer) (added : frame.add? block = some grown) :
    state.accept block = { state with frames := grown :: outer } := by
  simp [accept, stacked, added]

theorem accept_of_add?_eq_none {frame : Frame} {outer : List Frame} {block : Block}
    (stacked : state.frames = frame :: outer) (dropped : frame.add? block = none) :
    state.accept block = state := by
  simp [accept, stacked, dropped]

/-- The state with several more blocks in it, one after the other. -/
def acceptAll (blocks : List Block) (state : State) : State :=
  blocks.foldl (fun state block => state.accept block) state

/-- Where a block is put does not depend on what is reported about it. -/
@[simp] theorem put_fst (block : Block) (state : State) :
    (state.put options number block).1 = state.accept block := by
  rw [put, accept]
  cases state.frames with
  | nil => rfl
  | cons frame outer => cases added : frame.add? block <;> simp [added]

@[simp] theorem accept_table (block : Block) (state : State) :
    (state.accept block).table = state.table := by
  rw [accept]
  cases state.frames with
  | nil => rfl
  | cons frame outer => cases added : frame.add? block <;> simp [added]

@[simp] theorem length_frames_accept (block : Block) (state : State) :
    (state.accept block).frames.length = state.frames.length := by
  rw [accept]
  split
  · rename_i empty
    simp [empty]
  · rename_i frame outer stacked
    split <;> simp [stacked]

@[simp] theorem inWorkflow_accept (block : Block) (state : State) :
    (state.accept block).inWorkflow = state.inWorkflow := by
  rw [accept]
  split
  · rename_i empty
    simp [inWorkflow, empty]
  · rename_i frame outer stacked
    split
    · rename_i grown added
      simp [inWorkflow, stacked, Frame.isWorkflow_add? added]
    · rfl

/-- Outside of workflows nothing that is put is reported. -/
theorem put_of_not_inWorkflow (outside : state.inWorkflow = false) (block : Block) :
    state.put options number block = (state.accept block, []) := by
  rw [put, accept]
  cases stacked : state.frames with
  | nil => rfl
  | cons frame outer =>
      have plain : frame.isWorkflow = false := by simpa [inWorkflow, stacked] using outside
      obtain ⟨grown, added⟩ := Frame.exists_add? plain block
      simp [added]

/-- A workflow takes screens without a report. -/
theorem put_screen (inside : state.inWorkflow = true) (screen : Screen) :
    state.put options number (.screen screen) = (state.accept (.screen screen), []) := by
  rw [put, accept]
  cases stacked : state.frames with
  | nil => simp [inWorkflow, stacked] at inside
  | cons frame outer => cases frame <;> rfl

end State

/-! ## Runs in two parts -/

/-- Reads lines that are numbered from `number` on, without closing anything at the end. -/
def steps (options : Options) (registry : Registry) : Nat → List Text → State → State × List Note
  | _, [], state => (state, [])
  | number, line :: lines, state =>
      let (state, notes) := step options registry number line state
      let (state, more) := steps options registry (number + 1) lines state
      (state, notes ++ more)

/-- Reading to the end is reading every line and then closing everything. -/
theorem run_eq_steps (lines : List Text) (number : Nat) (state : State) :
    run options registry number lines state =
      ((finish options (steps options registry number lines state).1).1,
        (steps options registry number lines state).2 ++
          (finish options (steps options registry number lines state).1).2) := by
  induction lines generalizing number state with
  | nil => simp [run, steps]
  | cons line lines ih => simp [run, steps, ih]

/-- Lines are read one part after the other. -/
theorem steps_append (front rest : List Text) (number : Nat) (state : State) :
    steps options registry number (front ++ rest) state =
      ((steps options registry (number + front.length) rest
          (steps options registry number front state).1).1,
        (steps options registry number front state).2 ++
          (steps options registry (number + front.length) rest
            (steps options registry number front state).1).2) := by
  induction front generalizing number state with
  | nil => simp [steps]
  | cons line front ih =>
      have moved : number + 1 + front.length = number + (front.length + 1) := by omega
      simp [steps, ih, moved]

/-- A line that the open table takes changes nothing but the table. -/
theorem step_of_add? {table grown : OpenTable} (opened : state.table = some table)
    (added : table.add? line = some grown) :
    step options registry number line state = ({ state with table := some grown }, []) := by
  simp [step, opened, added]

/-- A line that the open table does not take closes the table and is then read. -/
theorem step_of_add?_eq_none {table : OpenTable} (opened : state.table = some table)
    (ended : table.add? line = none) :
    step options registry number line state =
      let (closed, closing) :=
        State.put options table.line table.close { state with table := none }
      let (state, notes) := readLine options registry number line closed
      (state, closing ++ notes) := by
  simp [step, opened, ended, State.closeTable]

/-- Without an open table a line is read as it is. -/
theorem step_of_table_eq_none (idle : state.table = none) :
    step options registry number line state = readLine options registry number line state := by
  simp [step, idle, State.closeTable]

/-- The closer of the innermost frame closes it. -/
theorem readLine_closer {frame : Frame} {outer : List Frame}
    (stacked : state.frames = frame :: outer) (closes : frame.closer = line) :
    readLine options registry number line state = state.closeFrame options := by
  simp [readLine, stacked, closes]

/-- Neither of the two closers closes anything unless it is read. -/
theorem closer_ne {frames : List Frame} (block : line ≠ "]".toList) (card : line ≠ "--]".toList) :
    (frames.head?.any fun frame => frame.closer = line) = false := by
  cases frames with
  | nil => rfl
  | cons frame outer =>
      rcases frame.closer_cases with closer | closer
      · simpa [closer] using Ne.symm block
      · simpa [closer] using Ne.symm card

/-- An empty line changes nothing where no table is open. -/
theorem readLine_nil : readLine options registry number [] state = (state, []) := by
  rw [readLine, if_neg (by simp [closer_ne]), if_pos (by rfl)]

/-- An open table takes no line without a bar. -/
theorem add?_eq_none_of_not_mem (free : '|' ∉ line) (table : Option OpenTable) :
    (table.bind fun table => table.add? line) = none := by
  cases table with
  | none => rfl
  | some table => simp [OpenTable.add?, free]

/-- An empty line ends the open table and does nothing else. -/
theorem step_nil : step options registry number [] state = state.closeTable options := by
  rw [step, add?_eq_none_of_not_mem List.not_mem_nil]
  simp [readLine_nil]

end Reading

end Mockup
