import Mockup.Proofs.Reading.Renumbering

/-!
# Reading one text after another

A blank line between two texts keeps them apart, as long as the first one leaves no block open. What
is read of the second text does not depend on where it starts: all that changes is the numbers of
its lines. The state of a reading is therefore moved as a whole, further down and on top of the
blocks that are finished already; moving is one way of renumbering.
-/

namespace Mockup

/-- The diagnostic for a text that starts `count` lines further down. -/
def Diagnostic.moved (count : Nat) : Diagnostic → Diagnostic
  | .unreadable line content failures => .unreadable (line + count) content failures
  | .badDirectives line directives => .badDirectives (line + count) directives
  | .tooDeep line => .tooDeep (line + count)
  | .notAScreen line => .notAScreen (line + count)

/-- The event for a text that starts `count` lines further down. Most of what is logged about single
lines does not give their numbers. -/
def Event.moved (count : Nat) : Event → Event
  | .tooDeep line => .tooDeep (line + count)
  | .badDirectives line fault => .badDirectives (line + count) fault
  | .dropped kind line => .dropped kind (line + count)
  | .unterminated kind line => .unterminated kind (line + count)
  | event => event

def Note.moved (count : Nat) : Note → Note
  | .event logged => .event (logged.moved count)
  | .diagnostic refused => .diagnostic (refused.moved count)

/-- What a moved diagnostic says, and about which line. -/
theorem Diagnostic.message_moved (count : Nat) (diagnostic : Diagnostic) :
    (diagnostic.moved count).message =
      "Line ".toList ++ Text.ofNat (diagnostic.line + count) ++ ": ".toList ++
        diagnostic.reason := by
  cases diagnostic <;> rfl

theorem Diagnostic.moved_eq_renumbered (count : Nat) :
    Diagnostic.moved count = Diagnostic.renumbered (· + count) := by
  funext diagnostic
  cases diagnostic <;> rfl

theorem Note.moved_eq_renumbered (count : Nat) :
    Note.moved count = Note.renumbered (· + count) := by
  funext note
  cases note with
  | event logged => cases logged <;> rfl
  | diagnostic refused =>
      rw [Note.moved, Diagnostic.moved_eq_renumbered]
      rfl

/-- The open block of a text that starts `count` lines further down. -/
def Frame.moved (count : Nat) : Frame → Frame
  | .box line outer children => .box (line + count) outer children
  | .screen line id children => .screen (line + count) id children
  | .workflow line initial screens => .workflow (line + count) initial screens

theorem Frame.moved_eq_renumbered (count : Nat) :
    Frame.moved count = Frame.renumbered (· + count) := by
  funext frame
  cases frame <;> rfl

/-- The open table of a text that starts `count` lines further down. -/
def OpenTable.moved (count : Nat) (table : OpenTable) : OpenTable :=
  { table with line := table.line + count }

namespace Reading

namespace State

/-- The state of reading a text that starts `count` lines further down, when the blocks of `base`
have been finished before. -/
def moved (count : Nat) (base : List Block) (state : State) : State where
  frames := state.frames.map (Frame.moved count)
  table := state.table.map (OpenTable.moved count)
  finished := state.finished ++ base

theorem moved_eq_renumbered (count : Nat) (base : List Block) (state : State) :
    state.moved count base = state.renumbered (· + count) base := by
  rw [moved, Frame.moved_eq_renumbered]
  rfl

end State

/-- A moved state, with what is reported moved along. -/
def movedOutcome (count : Nat) (base : List Block) (outcome : State × List Note) :
    State × List Note :=
  (outcome.1.moved count base, outcome.2.map (Note.moved count))

variable {options : Options} {registry : Registry} {number : Nat} {line : Text}
variable (count : Nat) (base : List Block) (state : State)

/-- Lines are read further down as they are read at the start. -/
theorem run_moved (lines : List Text) (number : Nat) :
    run options registry (number + count) lines (state.moved count base) =
      movedOutcome count base (run options registry number lines state) := by
  have shifted : lines.zipIdx (number + count) =
      (lines.zipIdx number).map (Prod.map id (· + count)) := by
    rw [List.map_snd_add_zipIdx_eq_zipIdx, Nat.add_comm]
  rw [run_eq_runNumbered, run_eq_runNumbered, shifted, State.moved_eq_renumbered,
    runNumbered_renumbered, movedOutcome, State.moved_eq_renumbered, Note.moved_eq_renumbered]
  rfl

/-! ## Two texts -/

/-- A reading is cut between any two lines. -/
theorem run_append (front rest : List Text) (number : Nat) :
    run options registry number (front ++ rest) state =
      let (halfway, notes) := steps options registry number front state
      let (state, more) := run options registry (number + front.length) rest halfway
      (state, notes ++ more) := by
  induction front generalizing number state with
  | nil => rfl
  | cons line front ih =>
      have counted : number + 1 + front.length = number + (front.length + 1) := by omega
      simp [run, steps, ih, counted]

namespace State

variable {state : State}

@[simp] theorem length_frames_endTable : state.endTable.frames.length = state.frames.length := by
  rw [endTable]
  split
  · rfl
  · exact length_frames_accept _ _

@[simp] theorem table_endTable : state.endTable.table = none := by
  rw [endTable]
  split
  · assumption
  · rw [accept_table]

theorem frames_endTable (closed : state.frames = []) : state.endTable.frames = [] := by
  rw [← List.length_eq_zero_iff, length_frames_endTable, closed]
  rfl

theorem frames_closeTable (closed : state.frames = []) :
    (state.closeTable options).1.frames = [] := by
  rw [closeTable_fst]
  exact frames_endTable closed

/-- When nothing is open but a table, closing it leaves what a reading starts with, on top of the
blocks that are finished. -/
theorem endTable_eq_moved_empty (count : Nat) (closed : state.frames = []) :
    state.endTable = State.empty.moved count state.endTable.finished := by
  calc
    state.endTable =
        ⟨state.endTable.frames, state.endTable.table, state.endTable.finished⟩ := rfl
    _ = ⟨[], none, state.endTable.finished⟩ := by rw [frames_endTable closed, table_endTable]
    _ = State.empty.moved count state.endTable.finished := rfl

end State

/-- Without a record of an unterminated block no block is open at the end. -/
theorem frames_eq_nil_of_finish {state : State}
    (terminated : ∀ kind line, .event (.unterminated kind line) ∉ (finish options state).2) :
    state.frames = [] := by
  rw [← List.length_eq_zero_iff, ← State.length_frames_endTable, List.length_eq_zero_iff]
  cases stacked : state.endTable.frames with
  | nil => rfl
  | cons frame outer =>
      refine absurd ?_ (terminated frame.kind frame.line)
      simp [finish, State.closeTable_fst, stacked, closeFrames]

theorem finish_of_frames_eq_nil {state : State} (closed : state.frames = []) :
    finish options state = state.closeTable options := by
  simp [finish, State.frames_closeTable closed, closeFrames]

theorem lines_append_blank (front rest : Text) :
    lines (front ++ '\n' :: '\n' :: rest) = lines front ++ [] :: lines rest := by
  have cut : Text.splitOn '\n' ('\n' :: rest) = [] :: Text.splitOn '\n' rest := by
    simp [Text.splitOn]
  rw [lines, Text.splitOn_append_cons, cut]
  simp [lines, Text.before?, Text.after?]

theorem prepare_nil (options : Options) : prepare options [] = [] := by
  rw [prepare]
  split <;> rfl

/-- Two texts with a blank line between them are read one after the other. -/
theorem run_append_blank {front : List Text} (rest : List Text)
    (closed : (steps options registry 1 front .empty).1.frames = []) :
    run options registry 1 (front ++ [] :: rest) .empty =
      let (before, notes) := run options registry 1 front .empty
      let (after, more) := run options registry 1 rest .empty
      (after.moved (front.length + 1) before.finished,
        notes ++ more.map (Note.moved (front.length + 1))) := by
  have counted : 1 + front.length + 1 = 1 + (front.length + 1) := by omega
  have fresh := State.endTable_eq_moved_empty (front.length + 1) closed
  rw [run_append, run_eq_steps front]
  simp only [run, step_nil, finish_of_frames_eq_nil closed,
    State.closeTable_fst, counted]
  rw [fresh, run_moved]
  simp [movedOutcome, State.moved, State.empty]

/-- The events of a reading are those among its notes. -/
theorem mem_events_iff {reading : Reading} {event : Event} :
    event ∈ reading.events ↔ Note.event event ∈ reading.notes := by
  rw [events, List.mem_filterMap]
  constructor
  · rintro ⟨note, member, found⟩
    cases note with
    | event logged =>
        cases found
        exact member
    | diagnostic refused => cases found
  · intro member
    exact ⟨.event event, member, rfl⟩

/-- The diagnostics of a reading whose notes are those of two others, the second one moved. -/
theorem diagnostics_append {first second whole : Reading} {count : Nat}
    (joined : whole.notes = first.notes ++ second.notes.map (Note.moved count)) :
    whole.diagnostics = first.diagnostics ++ second.diagnostics.map (Diagnostic.moved count) := by
  rw [diagnostics, joined, List.filterMap_append, List.filterMap_map, diagnostics, diagnostics,
    List.map_filterMap]
  congr 2
  funext note
  cases note <;> rfl

/-- What is read of two texts with a blank line between them, and what is reported on the way. -/
theorem read_append_blank_eq {options : Options} {registry : Registry} {front : Text}
    (rest : Text) (terminated : ∀ kind line,
      .unterminated kind line ∉ (read options registry front).events) :
    read options registry (front ++ "\n\n".toList ++ rest) =
      ⟨(read options registry front).blocks ++ (read options registry rest).blocks,
        (read options registry front).notes ++ (read options registry rest).notes.map
          (Note.moved ((lines front).length + 1))⟩ := by
  have cut : lines (front ++ "\n\n".toList ++ rest) = lines front ++ [] :: lines rest := by
    rw [List.append_assoc]
    exact lines_append_blank front rest
  have unlogged : ∀ kind line, .event (.unterminated kind line) ∉
      (finish options
        (steps options registry 1 ((lines front).map (prepare options)) .empty).1).2 := by
    intro kind line logged
    apply terminated kind line
    rw [mem_events_iff, read, run_eq_steps]
    exact List.mem_append_right _ logged
  have closed := frames_eq_nil_of_finish unlogged
  rw [read, cut, List.map_append, List.map_cons, prepare_nil, run_append_blank _ closed]
  simp [read, State.moved]

/-- A text that leaves no block open, a blank line and a further text are read as the two texts are
read alone: the blocks follow each other, and so do the diagnostics, those about the second text
with the numbers of its lines in the whole. -/
theorem read_append_blank (options : Options) (registry : Registry) (front rest : Text)
    (terminated : ∀ kind line,
      .unterminated kind line ∉ (read options registry front).events) :
    let first := read options registry front
    let second := read options registry rest
    let whole := read options registry (front ++ "\n\n".toList ++ rest)
    let count := (lines front).length + 1
    whole.blocks = first.blocks ++ second.blocks ∧
      whole.diagnostics = first.diagnostics ++ second.diagnostics.map (Diagnostic.moved count) ∧
      whole.diagnostics.map Diagnostic.message =
        first.diagnostics.map Diagnostic.message ++ second.diagnostics.map fun diagnostic =>
          "Line ".toList ++ Text.ofNat (diagnostic.line + count) ++ ": ".toList ++
            diagnostic.reason := by
  intro first second whole count
  have joined : whole = ⟨first.blocks ++ second.blocks,
      first.notes ++ second.notes.map (Note.moved count)⟩ :=
    read_append_blank_eq rest terminated
  have diagnosed : whole.diagnostics =
      first.diagnostics ++ second.diagnostics.map (Diagnostic.moved count) := by
    apply diagnostics_append
    rw [joined]
  refine ⟨by rw [joined], diagnosed, ?_⟩
  rw [diagnosed, List.map_append, List.map_map]
  congr 2
  funext diagnostic
  exact diagnostic.message_moved count

/-- A table ends the first text, and the second one has a workflow with a setting that lacks its
name. -/
theorem read_append_blank_table :
    let options : Options := { strict := true }
    let front := "# a\n|x|".toList
    let rest := "|y|\n\n[workflow =a\n]".toList
    let whole := read options Registry.builtin (front ++ "\n\n".toList ++ rest)
    (∀ kind line, .unterminated kind line ∉ (read options Registry.builtin front).events) ∧
      whole.blocks.length = 4 ∧ whole.diagnostics.map Diagnostic.line = [6] := by
  intro options front rest whole
  have logged : (read options Registry.builtin front).events =
      [.classified "# a".toList .header] := rfl
  have terminated : ∀ kind line,
      .unterminated kind line ∉ (read options Registry.builtin front).events := by
    rw [logged]
    simp
  obtain ⟨blocks, diagnosed, -⟩ :=
    read_append_blank options Registry.builtin front rest terminated
  refine ⟨terminated, ?_, ?_⟩
  · rw [blocks]
    rfl
  · rw [diagnosed]
    rfl

end Reading

end Mockup
