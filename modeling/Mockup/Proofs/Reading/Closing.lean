import Mockup.Proofs.Reading.Composition
import Mockup.Proofs.Text

/-!
# Closing what is open at the end

The end of a text closes every block that is still open, and logs it. Closing lines behind the text
do the same without a record: each of them closes the innermost block, and what a closed block does
to the blocks around it never depends on how it was closed. A table needs no closing line, because
every line without a bar ends it.
-/

namespace Mockup

/-- The kind of the block that an event records as open at the end. -/
def Event.unterminated? : Event → Option Kind
  | .unterminated kind _ => some kind
  | _ => none

/-- The kind of the block that a note records as open at the end. -/
def Note.unterminated? : Note → Option Kind
  | .event logged => logged.unterminated?
  | .diagnostic _ => none

/-- A frame that takes a block stays of the kind it is. -/
theorem Frame.kind_add? {frame grown : Frame} {block : Block}
    (added : frame.add? block = some grown) : grown.kind = frame.kind := by
  cases takes_of_add? added <;> rfl

namespace Reading

/-- The kinds of the blocks that were open at the end, in the order in which they are logged. -/
def unterminated (reading : Reading) : List Kind :=
  reading.events.filterMap Event.unterminated?

variable {options : Options} {registry : Registry} {number : Nat} {line : Text} {state : State}

theorem table_closeTable (state : State) : (state.closeTable options).1.table = none := by
  rw [State.closeTable_fst, State.table_endTable]

/-- The table is closed first, and the line is then read as if there had been none. -/
theorem step_of_not_mem (free : '|' ∉ line) :
    step options registry number line state =
      let (ended, closing) := state.closeTable options
      let (after, notes) := step options registry number line ended
      (after, closing ++ notes) := by
  rw [step, add?_eq_none_of_not_mem free]
  simp [step_of_table_eq_none (table_closeTable state)]

/-- At the end of a text, and in front of a line without a bar, the table may be closed early. -/
theorem runNumbered_of_head_not_mem {lines : List (Text × Nat)}
    (free : ∀ entry ∈ lines.head?, '|' ∉ entry.1) :
    runNumbered options registry lines state =
      let (ended, closing) := state.closeTable options
      let (after, notes) := runNumbered options registry lines ended
      (after, closing ++ notes) := by
  cases lines with
  | nil =>
      have still : (state.closeTable options).1.closeTable options =
          ((state.closeTable options).1, []) := by
        rw [State.closeTable, table_closeTable]
      simp [runNumbered, finish, still]
  | cons entry lines =>
      have here : '|' ∉ entry.1 := free entry rfl
      rw [runNumbered, step_of_not_mem here]
      simp [runNumbered]

theorem run_of_head_not_mem {lines : List Text} (free : ∀ line ∈ lines.head?, '|' ∉ line) :
    run options registry number lines state =
      let (ended, closing) := state.closeTable options
      let (after, notes) := run options registry number lines ended
      (after, closing ++ notes) := by
  have numbered : ∀ entry ∈ (lines.zipIdx number).head?, '|' ∉ entry.1 := by
    cases lines with
    | nil => simp
    | cons line lines =>
        rintro entry ⟨⟩
        exact free line rfl
  simp only [run_eq_runNumbered]
  exact runNumbered_of_head_not_mem numbered

/-- None of the notes records that a block is open at the end. -/
def Ongoing (notes : List Note) : Prop :=
  ∀ note ∈ notes, note.unterminated? = none

namespace Ongoing

@[simp] theorem nil : Ongoing [] :=
  List.forall_mem_nil _

@[simp] theorem cons {note : Note} {notes : List Note} :
    Ongoing (note :: notes) ↔ note.unterminated? = none ∧ Ongoing notes :=
  List.forall_mem_cons

@[simp] theorem append {front rest : List Note} :
    Ongoing (front ++ rest) ↔ Ongoing front ∧ Ongoing rest :=
  List.forall_mem_append

theorem filter_eq_self {notes : List Note} (ongoing : Ongoing notes) :
    notes.filter (fun note => note.unterminated?.isNone) = notes := by
  apply List.filter_eq_self.2
  intro note member
  rw [ongoing note member]
  rfl

end Ongoing

theorem ongoing_diagnose (diagnostic : Diagnostic) : Ongoing (diagnose options diagnostic) := by
  rw [diagnose]
  split
  · exact Ongoing.cons.2 ⟨rfl, Ongoing.nil⟩
  · exact Ongoing.nil

theorem ongoing_put (block : Block) (state : State) :
    Ongoing (state.put options number block).2 := by
  rw [State.put]
  cases state.frames with
  | nil => exact Ongoing.nil
  | cons frame outer =>
      cases added : frame.add? block with
      | some grown => simp [added]
      | none => simpa [added] using ⟨rfl, ongoing_diagnose _⟩

theorem ongoing_closeFrame (state : State) : Ongoing (state.closeFrame options).2 := by
  rw [State.closeFrame]
  cases state.frames with
  | nil => exact Ongoing.nil
  | cons frame outer => exact ongoing_put _ _

theorem ongoing_closeTable (state : State) : Ongoing (state.closeTable options).2 := by
  rw [State.closeTable]
  cases state.table with
  | none => exact Ongoing.nil
  | some table => exact ongoing_put _ _

theorem ongoing_readItem (state : State) :
    Ongoing (readItem options registry number line state).2 := by
  have logged : (Note.event (if (Item.ofLine line).1 = .text then .fellBack line
      else .classified line (Item.ofLine line).1)).unterminated? = none := by
    split <;> rfl
  simp only [readItem]
  generalize (if (Item.ofLine line).1 = .text ∧ options.strict = true then
    registry.failures options.checks line else []) = failures
  split
  · exact Ongoing.cons.2 ⟨logged, Ongoing.cons.2 ⟨rfl, Ongoing.nil⟩⟩
  · exact Ongoing.cons.2 ⟨logged, ongoing_put _ _⟩

theorem ongoing_openFrame? {opener : Opener} {frame : Frame} {notes : List Note}
    (opened : openFrame? options number opener = some (frame, notes)) : Ongoing notes := by
  cases opener with
  | table => cases opened
  | card | grid | div | screen =>
      cases opened
      exact Ongoing.nil
  | workflow directives =>
      simp only [openFrame?, readInitial, Option.some.injEq, Prod.mk.injEq] at opened
      rw [← opened.2]
      cases Directives.read directives with
      | ok settings => exact Ongoing.nil
      | error fault => exact Ongoing.cons.2 ⟨rfl, ongoing_diagnose _⟩

theorem ongoing_readOpener (opener : Opener) (state : State) :
    Ongoing (readOpener options registry number line opener state).2 := by
  rw [readOpener]
  split
  · exact Ongoing.nil
  · rename_i frame notes opened
    split
    · exact ongoing_openFrame? opened
    · split
      · exact Ongoing.cons.2 ⟨rfl, Ongoing.cons.2 ⟨rfl, Ongoing.nil⟩⟩
      · exact Ongoing.cons.2 ⟨rfl, ongoing_readItem state⟩

theorem ongoing_readLine (state : State) :
    Ongoing (readLine options registry number line state).2 := by
  rw [readLine]
  split
  · exact ongoing_closeFrame state
  · split
    · exact Ongoing.nil
    · split
      · exact ongoing_readOpener _ state
      · exact ongoing_readItem state

theorem ongoing_step (state : State) : Ongoing (step options registry number line state).2 := by
  rw [step]
  split
  · exact Ongoing.nil
  · exact Ongoing.append.2 ⟨ongoing_closeTable _, ongoing_readLine _⟩

/-- Only the end of a text records that blocks are open. -/
theorem ongoing_steps (lines : List Text) (number : Nat) (state : State) :
    Ongoing (steps options registry number lines state).2 := by
  induction lines generalizing number state with
  | nil => exact Ongoing.nil
  | cons line lines ih => exact Ongoing.append.2 ⟨ongoing_step _, ih _ _⟩

/-! ## Closing lines -/

namespace State

/-- The kinds of the open blocks, the innermost first. -/
def kinds (state : State) : List Kind :=
  state.frames.map Frame.kind

@[simp] theorem length_kinds (state : State) : state.kinds.length = state.frames.length :=
  List.length_map _

/-- What is put into a block does not change its kind. -/
theorem kinds_accept (block : Block) (state : State) :
    (state.accept block).kinds = state.kinds := by
  rw [accept, kinds, kinds]
  split
  · rfl
  · rename_i frame outer stacked
    split
    · rename_i grown added
      rw [stacked, List.map_cons, List.map_cons, Frame.kind_add? added]
    · rw [stacked]

theorem kinds_endTable (state : State) : state.endTable.kinds = state.kinds := by
  rw [endTable]
  split
  · rfl
  · exact kinds_accept _ _

theorem kinds_closeFrame {frame : Frame} {outer : List Frame}
    (stacked : state.frames = frame :: outer) :
    (state.closeFrame options).1.kinds = outer.map Frame.kind := by
  rw [closeFrame_fst, pop, stacked]
  exact kinds_accept _ _

theorem length_frames_closeFrame {frame : Frame} {outer : List Frame}
    (stacked : state.frames = frame :: outer) :
    (state.closeFrame options).1.frames.length = outer.length := by
  rw [← length_kinds, kinds_closeFrame stacked, List.length_map]

theorem table_closeFrame (state : State) : (state.closeFrame options).1.table = state.table := by
  rw [closeFrame_fst, pop]
  split
  · rfl
  · exact accept_table _ _

end State

/-- The end of a text records all of the open blocks, the innermost first. -/
theorem unterminated_closeFrames {count : Nat} {state : State}
    (counted : state.frames.length = count) :
    (closeFrames options count state).2.filterMap Note.unterminated? = state.kinds := by
  induction count generalizing state with
  | zero =>
      rw [State.kinds, List.length_eq_zero_iff.1 counted]
      rfl
  | succ count ih =>
      obtain ⟨frame, outer, stacked⟩ := List.exists_cons_of_length_eq_add_one counted
      have left : (state.closeFrame options).1.frames.length = count := by
        rw [State.length_frames_closeFrame stacked]
        simpa [stacked] using counted
      have silent : (state.closeFrame options).2.filterMap Note.unterminated? = [] :=
        List.filterMap_eq_nil_iff.2 (ongoing_closeFrame state)
      have recorded : (Note.event (.unterminated frame.kind frame.line)).unterminated? =
        some frame.kind := rfl
      rw [closeFrames, stacked, State.kinds, stacked]
      simp only [List.cons_append, List.filterMap_cons, recorded, List.filterMap_append, silent,
        ih left, State.kinds_closeFrame stacked, List.nil_append, List.map_cons]

/-- Between blocks, blank lines change nothing. -/
theorem run_blanks {blanks : List Text} (blank : ∀ line ∈ blanks, line = []) (number : Nat)
    (closed : state.frames = []) (idle : state.table = none) :
    run options registry number blanks state = (state, []) := by
  induction blanks generalizing number with
  | nil => simp [run, finish, State.closeTable, idle, closed, closeFrames]
  | cons line blanks ih =>
      obtain ⟨rfl, others⟩ := List.forall_mem_cons.1 blank
      rw [run, step_nil, State.closeTable, idle]
      simp [ih others]

/-- Closing lines close what the end of a text would close, and report the same, except that
nothing is recorded as open at the end. -/
theorem run_closers {count : Nat} {state : State} {blanks : List Text}
    (counted : state.frames.length = count) (idle : state.table = none)
    (blank : ∀ line ∈ blanks, line = []) (number : Nat) :
    run options registry number (state.kinds.map Frame.closerOf ++ blanks) state =
      ((closeFrames options count state).1,
        (closeFrames options count state).2.filter fun note => note.unterminated?.isNone) := by
  induction count generalizing state number with
  | zero =>
      have closed := List.length_eq_zero_iff.1 counted
      rw [State.kinds, closed]
      exact run_blanks blank number closed idle
  | succ count ih =>
      obtain ⟨frame, outer, stacked⟩ := List.exists_cons_of_length_eq_add_one counted
      have left : (state.closeFrame options).1.frames.length = count := by
        rw [State.length_frames_closeFrame stacked]
        simpa [stacked] using counted
      have closes : step options registry number (Frame.closerOf frame.kind) state =
          state.closeFrame options := by
        rw [step_of_table_eq_none idle]
        exact readLine_closer stacked rfl
      have reported : (state.closeFrame options).2.filter _ = _ :=
        (ongoing_closeFrame state).filter_eq_self
      have rest := ih left ((State.table_closeFrame state).trans idle) (number + 1)
      rw [State.kinds_closeFrame stacked] at rest
      have recorded : (Note.event (.unterminated frame.kind frame.line)).unterminated?.isNone =
        false := rfl
      rw [State.kinds, stacked]
      simp only [List.map_cons, List.cons_append, run, closes, rest, closeFrames, stacked,
        List.filter_cons, recorded, List.filter_append, reported, Bool.false_eq_true, if_false]

/-- The records of a reading are those of its last state. -/
theorem unterminated_run (lines : List Text) (number : Nat) (state : State) :
    (run options registry number lines state).2.filterMap Note.unterminated? =
      (steps options registry number lines state).1.kinds := by
  rw [run_eq_steps]
  generalize reached : steps options registry number lines state = outcome
  have before : Ongoing outcome.2 := reached ▸ ongoing_steps lines number state
  rw [finish]
  simp only [List.filterMap_append, List.filterMap_eq_nil_iff.2 before,
    List.filterMap_eq_nil_iff.2 (ongoing_closeTable outcome.1), List.nil_append,
    unterminated_closeFrames rfl]
  rw [State.closeTable_fst, State.kinds_endTable]

/-- A reading goes on to closing lines for the blocks that are open where it would end. Neither a
closing line nor a blank one has a bar, so a table is closed ahead of them. -/
theorem run_append_closers {front blanks : List Text} (blank : ∀ line ∈ blanks, line = [])
    (number : Nat) (state : State) :
    let kinds := (steps options registry number front state).1.kinds
    run options registry number (front ++ (kinds.map Frame.closerOf ++ blanks)) state =
      let (after, notes) := run options registry number front state
      (after, notes.filter fun note => note.unterminated?.isNone) := by
  intro kinds
  have free : ∀ line ∈ (kinds.map Frame.closerOf ++ blanks).head?, '|' ∉ line := by
    intro line first
    rcases List.mem_append.1 (List.mem_of_head? first) with closer | empty
    · obtain ⟨kind, -, rfl⟩ := List.mem_map.1 closer
      rcases Frame.closerOf_cases kind with spelled | spelled <;> rw [spelled] <;> decide
    · rw [blank line empty]
      exact List.not_mem_nil
  have before : (steps options registry number front state).2.filter _ = _ :=
    (ongoing_steps front number state).filter_eq_self
  rw [run_append state front, run_eq_steps front]
  generalize reached : steps options registry number front state = outcome at before
  obtain ⟨halfway, notes⟩ := outcome
  have still : kinds = (halfway.closeTable options).1.kinds := by
    rw [State.closeTable_fst, State.kinds_endTable]
    exact congrArg (fun outcome => outcome.1.kinds) reached
  have idle : (halfway.closeTable options).1.table = none := table_closeTable halfway
  have closing : (halfway.closeTable options).2.filter _ = _ :=
    (ongoing_closeTable halfway).filter_eq_self
  dsimp only
  rw [run_of_head_not_mem free, still]
  simp only [run_closers rfl idle blank, finish, List.filter_append, before, closing]

/-! ## Texts -/

/-- The lines that close blocks of the given kinds, one after the other. -/
def closers (kinds : List Kind) : Text :=
  Text.joined ['\n'] (kinds.map Frame.closerOf)

/-- A closing line is read as it stands. -/
theorem prepare_closerOf (kind : Kind) :
    prepare options ((Text.before? ['\r'] (Frame.closerOf kind)).getD (Frame.closerOf kind)) =
      Frame.closerOf kind := by
  have trimmed : Text.trim (Frame.closerOf kind) = Frame.closerOf kind := by
    rcases Frame.closerOf_cases kind with spelled | spelled <;> rw [spelled] <;> rfl
  rw [Text.dropReturn_of_trim trimmed, prepare, trimmed, ite_self]

theorem splitOn_append_replicate (text : Text) (count : Nat) :
    Text.splitOn '\n' (text ++ List.replicate count '\n') =
      Text.splitOn '\n' text ++ List.replicate count [] := by
  induction count generalizing text with
  | zero => simp
  | succ count ih =>
      have empty : Text.splitOn '\n' ([] ++ List.replicate count '\n') = _ := ih []
      rw [List.replicate_succ, Text.splitOn_append_cons]
      simpa [Text.splitOn, List.replicate_succ] using empty

/-- Behind the closing lines there is nothing but blank lines. If nothing is to be closed there is
at least one of them, since the text goes on behind a line feed. -/
theorem lines_closers (options : Options) (kinds : List Kind) (count : Nat) :
    ∃ blanks, (∀ line ∈ blanks, line = []) ∧
      (lines (closers kinds ++ List.replicate count '\n')).map (prepare options) =
        kinds.map Frame.closerOf ++ blanks := by
  have blank : ∀ line ∈ List.replicate count ([] : Text), line = [] :=
    fun _ member => List.eq_of_mem_replicate member
  have trailing : ((List.replicate count ([] : Text)).map fun line =>
      (Text.before? ['\r'] line).getD line).map (prepare options) = List.replicate count [] := by
    rw [List.map_replicate, List.map_replicate]
    exact congrArg _ (prepare_nil options)
  rw [lines, splitOn_append_replicate, List.map_append, List.map_append, trailing]
  cases kinds with
  | nil =>
      refine ⟨[] :: List.replicate count [], List.forall_mem_cons.2 ⟨rfl, blank⟩, ?_⟩
      exact congrArg (· :: _) (prepare_nil options)
  | cons kind kinds =>
      have single : ∀ line ∈ (kind :: kinds).map Frame.closerOf, '\n' ∉ line := by
        intro line member
        obtain ⟨closed, -, rfl⟩ := List.mem_map.1 member
        rcases Frame.closerOf_cases closed with spelled | spelled <;> rw [spelled] <;> decide
      refine ⟨List.replicate count [], blank, ?_⟩
      rw [closers, Text.splitOn_joined (by simp) single, List.map_map, List.map_map]
      congr 1
      exact List.map_congr_left fun kind _ => prepare_closerOf kind

theorem lines_append (front rest : Text) :
    lines (front ++ '\n' :: rest) = lines front ++ lines rest := by
  rw [lines, Text.splitOn_append_cons, List.map_append, lines, lines]

/-- Records of open blocks are no diagnostics. -/
theorem diagnostics_filter (blocks : List Block) (notes : List Note) :
    diagnostics ⟨blocks, notes.filter fun note => note.unterminated?.isNone⟩ =
      diagnostics ⟨blocks, notes⟩ := by
  rw [diagnostics, diagnostics, List.filterMap_filter]
  congr 1
  funext note
  cases note with
  | event logged => split <;> rfl
  | diagnostic refused => rfl

theorem unterminated_eq (reading : Reading) :
    reading.unterminated = reading.notes.filterMap Note.unterminated? := by
  rw [unterminated, events, List.filterMap_filterMap]
  congr 1
  funext note
  cases note <;> rfl

/-- What the end of a text closes, closing lines behind the text close as well: the document and
the diagnostics stay the same, and nothing is open at the end. Further line feeds change nothing. -/
theorem read_append_closers (options : Options) (registry : Registry) (text : Text) (count : Nat) :
    let reading := read options registry text
    let closed := read options registry
      (text ++ '\n' :: closers reading.unterminated ++ List.replicate count '\n')
    closed.blocks = reading.blocks ∧ closed.diagnostics = reading.diagnostics ∧
      closed.unterminated = [] := by
  intro reading closed
  have kinds : reading.unterminated =
      (steps options registry 1 ((lines text).map (prepare options)) .empty).1.kinds := by
    rw [unterminated_eq]
    exact unterminated_run _ 1 .empty
  obtain ⟨blanks, blank, written⟩ := lines_closers options reading.unterminated count
  have whole : closed =
      ⟨reading.blocks, reading.notes.filter fun note => note.unterminated?.isNone⟩ := by
    simp only [closed, read, List.append_assoc, List.cons_append, lines_append, List.map_append]
    rw [written, kinds, run_append_closers blank]
    rfl
  refine ⟨by rw [whole], ?_, ?_⟩
  · rw [whole]
    exact diagnostics_filter reading.blocks reading.notes
  · rw [whole, unterminated_eq]
    apply List.filterMap_eq_nil_iff.2
    intro note member
    simpa using (List.mem_filter.1 member).2

/-- A card in a grid, both still open at the end. -/
example :
    let text := "[grid 2\n[-- A\nB".toList
    let reading := read {} .builtin text
    let closed := read {} .builtin (text ++ "\n--]\n]".toList)
    reading.unterminated = [.card, .grid] ∧ closers reading.unterminated = "--]\n]".toList ∧
      closed.blocks = reading.blocks ∧ closed.unterminated = [] := by
  decide +kernel

end Reading

end Mockup
