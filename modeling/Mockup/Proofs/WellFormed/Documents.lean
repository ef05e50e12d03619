import Mockup.Proofs.Directives
import Mockup.Proofs.Reading.Course
import Mockup.Proofs.WellFormed.Lines

/-!
# Well-formed documents

Every block of every document that is read is well-formed, holds no line feed and does not nest
too deeply. The invariant is kept by each of the moves that a line can make: the blocks that are
still open are sound as far as they go, each of them knows how much room there is inside of it, and
an open screen stands right inside an open workflow.
-/

namespace Mockup

/-- What is known of an opener that a line was read as. -/
def Opener.Within (line : Text) : Opener → Prop
  | .table => True
  | .card title => title ⊆ line
  | .grid config => config ⊆ line
  | .workflow directives => directives ⊆ line ∧ ']' ∉ directives
  | .div className => Text.trim className = className ∧ ']' ∉ className ∧ className ⊆ line
  | .screen id => id.IsName

namespace Opener

variable {line : Text} {opener : Opener}

theorem table?_eq_some (found : table? line = some opener) : opener = .table := by
  rw [table?] at found
  split at found
  · split at found
    · cases found
      rfl
    · cases found
  · cases found

theorem card?_eq_some (found : card? line = some opener) :
    ∃ title, opener = .card title ∧ title ⊆ line := by
  obtain ⟨rest, led, rfl⟩ := Option.map_eq_some_iff.1 found
  exact ⟨_, rfl, List.Subset.trans (Text.trimStart_subset rest) (Text.after?_subset led)⟩

theorem grid?_eq_some (found : grid? line = some opener) :
    ∃ config, opener = .grid config ∧ config ⊆ line := by
  obtain ⟨rest, led, behind⟩ := Option.bind_eq_some_iff.1 found
  obtain ⟨config, later, made⟩ := Text.behindBlanks?_eq_some behind
  cases made
  exact ⟨config, rfl, List.Subset.trans later (Text.after?_subset led)⟩

theorem workflow?_eq_some (found : workflow? line = some opener) :
    ∃ directives, opener = .workflow directives ∧ directives ⊆ line ∧ ']' ∉ directives := by
  rw [workflow?] at found
  split at found
  · cases found
  · cases found
    exact ⟨[], rfl, List.nil_subset line, List.not_mem_nil⟩
  · rename_i rest led
    split at found
    · cases found
    · rename_i unclosed
      obtain ⟨directives, later, made⟩ := Text.behindBlanks?_eq_some found
      cases made
      refine ⟨directives, rfl, List.Subset.trans later (Text.after?_subset led), ?_⟩
      intro member
      exact unclosed (List.contains_iff_mem.2 (later member))

theorem div?_eq_some (found : div? line = some opener) :
    ∃ className, opener = .div className ∧ Text.trim className = className ∧
      ']' ∉ className ∧ className ⊆ line := by
  obtain ⟨rest, led, guarded⟩ := Option.bind_eq_some_iff.1 found
  split at guarded
  · cases guarded
  · rename_i unclosed
    cases guarded
    refine ⟨_, rfl, Text.trim_trim rest, ?_,
      List.Subset.trans (Text.trim_subset rest) (Text.after?_subset led)⟩
    intro member
    exact unclosed (List.contains_iff_mem.2 (Text.trim_subset rest member))

theorem screen?_eq_some (found : screen? line = some opener) :
    ∃ id, opener = .screen id ∧ id.IsName := by
  obtain ⟨rest, led, behind⟩ := Option.bind_eq_some_iff.1 found
  obtain ⟨named, later, guarded⟩ := Text.behindBlanks?_eq_some behind
  simp only at guarded
  split at guarded
  · rename_i plain
    cases guarded
    refine ⟨_, rfl, Text.isName_takeWhile ?_ plain.1⟩
    intro character accepted
    simpa using accepted
  · cases guarded

/-- Outside of workflows no line opens a screen. -/
theorem within_ofLine? (found : ofLine? line = some opener) :
    opener.Within line ∧ ∀ id, opener ≠ .screen id := by
  obtain ⟨read, member, found⟩ := List.exists_of_findSome?_eq_some found
  simp only [List.mem_cons, List.not_mem_nil, or_false] at member
  rcases member with rfl | rfl | rfl | rfl | rfl
  · rw [table?_eq_some found]
    exact ⟨trivial, by simp⟩
  · obtain ⟨title, rfl, within⟩ := card?_eq_some found
    exact ⟨within, by simp⟩
  · obtain ⟨config, rfl, within⟩ := grid?_eq_some found
    exact ⟨within, by simp⟩
  · obtain ⟨directives, rfl, within⟩ := workflow?_eq_some found
    exact ⟨within, by simp⟩
  · obtain ⟨className, rfl, within⟩ := div?_eq_some found
    exact ⟨within, by simp⟩

theorem within_ofWorkflowLine? (found : ofWorkflowLine? line = some opener) :
    opener.Within line := by
  rcases Option.or_eq_some_iff.1 found with screen | ⟨-, other⟩
  · obtain ⟨id, rfl, named⟩ := screen?_eq_some screen
    exact named
  · exact (within_ofLine? other).1

end Opener

theorem Text.IsName.oneLine {name : Text} (named : name.IsName) : '\n' ∉ name := by
  intro member
  have visible := (named.2 '\n' member).1
  exact absurd visible (by decide)

namespace Frame

/-- What is known of an open block with `room` for further blocks inside of each other. -/
def Sound (room : Nat) : Frame → Prop
  | .box _ outer children =>
      outer.WellFormed ∧ (∀ text ∈ outer.texts, '\n' ∉ text) ∧ ∀ child ∈ children, child.Sound room
  | .screen _ id children => id.IsName ∧ ∀ child ∈ children, child.Sound room
  | .workflow _ initial screens =>
      (∀ name ∈ initial, name.IsName) ∧ ∀ screen ∈ screens, screen.Sound room

/-- Whether the block is a screen. -/
def isScreen : Frame → Bool
  | .screen .. => true
  | .box .. | .workflow .. => false

variable {room : Nat} {frame grown : Frame}

theorem isScreen_add? {block : Block} (added : frame.add? block = some grown) :
    grown.isScreen = frame.isScreen := by
  cases takes_of_add? added <;> rfl

/-- A sound block keeps the block sound that it is put into. -/
theorem Sound.add? {block : Block} (sound : frame.Sound room) (inside : block.Sound room)
    (added : frame.add? block = some grown) : grown.Sound room := by
  cases takes_of_add? added with
  | box line outer children =>
      exact ⟨sound.1, sound.2.1, List.forall_mem_cons.2 ⟨inside, sound.2.2⟩⟩
  | screen line id children => exact ⟨sound.1, List.forall_mem_cons.2 ⟨inside, sound.2⟩⟩
  | workflow line initial screens inner => exact inside.wellFormed.elim

/-- A workflow takes sound screens. -/
theorem Sound.add?_screen {screen : Screen} (sound : frame.Sound room)
    (inside : screen.Sound room) (workflow : frame.isWorkflow = true) :
    ∃ grown, frame.add? (.screen screen) = some grown ∧ grown.Sound room := by
  cases frame with
  | box | screen => cases workflow
  | workflow line initial screens =>
      exact ⟨_, rfl, sound.1, List.forall_mem_cons.2 ⟨inside, sound.2⟩⟩

/-- The screen that a workflow starts on has a name. -/
theorem isName_initial {initial : Option Text} {screens : List Screen}
    (set : ∀ name ∈ initial, name.IsName) (sound : ∀ screen ∈ screens, screen.Sound room) :
    (initial.getD ((screens.head?.map Screen.id).getD defaultScreen)).IsName := by
  cases initial with
  | some name => exact set name rfl
  | none =>
      cases screens with
      | nil => simp [Text.IsName, defaultScreen, Text.isBlank]
      | cons screen screens => exact (sound screen List.mem_cons_self).wellFormed.isName

/-- A finished block that is not a screen is sound. -/
theorem Sound.close (sound : frame.Sound room) (plain : frame.isScreen = false) :
    frame.close.Sound (room + 1) := by
  cases frame with
  | box line outer children =>
      exact .box sound.1 sound.2.1 fun child member => sound.2.2 child (List.mem_reverse.1 member)
  | screen => cases plain
  | workflow line initial screens =>
      have reversed : ∀ screen ∈ screens.reverse, screen.Sound room :=
        fun screen member => sound.2 screen (List.mem_reverse.1 member)
      have named := isName_initial sound.1 reversed
      exact .workflow named named.oneLine reversed

/-- A finished screen is sound. -/
theorem Sound.close_screen (sound : frame.Sound room) (screen : frame.isScreen = true) :
    ∃ inner, frame.close = .screen inner ∧ inner.Sound (room + 1) := by
  cases frame with
  | box | workflow => cases screen
  | screen line id children =>
      refine ⟨_, rfl, .mk_of_children sound.1 sound.1.oneLine ?_⟩
      exact fun child member => sound.2 child (List.mem_reverse.1 member)

theorem isScreen_of_frameOf? {number : Nat} {opener : Opener}
    (plain : ∀ id, opener ≠ .screen id) (opened : Reading.frameOf? number opener = some frame) :
    frame.isScreen = false := by
  cases opener with
  | table => cases opened
  | screen id => exact absurd rfl (plain id)
  | card | grid | div | workflow =>
      cases opened
      rfl

/-- What a line opens is sound before anything is put into it. -/
theorem sound_of_frameOf? {number : Nat} {line : Text} {opener : Opener} (single : '\n' ∉ line)
    (within : opener.Within line) (opened : Reading.frameOf? number opener = some frame) :
    frame.Sound room := by
  cases opener with
  | table => cases opened
  | card title =>
      cases opened
      refine ⟨?_, ?_, by simp⟩
      · intro children titled
        split at titled
        · cases titled
        · rename_i filled
          cases titled
          exact Inline.read_ne_nil filled
      · intro text held
        split at held
        · simp [Box.texts] at held
        · intro member
          exact single (within (Item.subset_of_mem_flatMap_read text held member))
  | grid config =>
      cases opened
      refine ⟨trivial, ?_, by simp⟩
      exact List.forall_mem_singleton.2 fun member => single (within member)
  | div className =>
      cases opened
      obtain ⟨trimmed, unclosed, subset⟩ := within
      refine ⟨?_, ?_, by simp⟩
      · intro name styled
        split at styled
        · cases styled
        · rename_i filled
          cases styled
          exact ⟨trimmed, filled, unclosed⟩
      · intro name styled
        split at styled
        · simp [Box.texts] at styled
        · rw [List.mem_singleton.1 styled]
          exact fun member => single (subset member)
  | screen id =>
      cases opened
      exact ⟨within, by simp⟩
  | workflow directives =>
      obtain ⟨subset, unclosed⟩ := within
      simp only [Reading.frameOf?, Reading.openFrame?, Reading.readInitial, Option.map_some,
        Option.some.injEq] at opened
      rw [← opened]
      refine ⟨?_, by simp⟩
      intro name found
      cases readable : Directives.read directives with
      | error fault =>
          rw [readable] at found
          cases found
      | ok settings =>
          rw [readable] at found
          obtain ⟨nonempty, visible, part⟩ := Directives.get?_within readable found
          refine ⟨nonempty, fun character member => ⟨visible character member, ?_⟩⟩
          rintro rfl
          exact unclosed (part member)

end Frame

/-- The cells of an open table are sound. -/
def OpenTable.Sound (table : OpenTable) : Prop :=
  ∀ cells ∈ table.headers :: table.rows, ∀ cell ∈ cells, Text.IsEntry '|' cell ∧ '\n' ∉ cell

namespace OpenTable

variable {line : Text} {table grown : OpenTable}

theorem sound_cells (single : '\n' ∉ line) :
    ∀ cell ∈ cells line, Text.IsEntry '|' cell ∧ '\n' ∉ cell := by
  intro cell member
  obtain ⟨-, -, -, within⟩ := Text.mem_entries member
  exact ⟨Text.isEntry_of_mem_entries member, fun held => single (within held)⟩

theorem sound_start (number : Nat) (single : '\n' ∉ line) : (start number line).Sound :=
  List.forall_mem_singleton.2 (sound_cells single)

theorem Sound.add? (sound : table.Sound) (single : '\n' ∉ line)
    (added : table.add? line = some grown) : grown.Sound := by
  rw [OpenTable.add?] at added
  split at added
  · cases added
    exact sound
  · split at added
    · cases added
      obtain ⟨headers, rows⟩ := List.forall_mem_cons.1 sound
      exact List.forall_mem_cons.2
        ⟨headers, List.forall_mem_cons.2 ⟨sound_cells single, rows⟩⟩
    · cases added

theorem Sound.close {room : Nat} (sound : table.Sound) : table.close.Sound room := by
  obtain ⟨headers, rows⟩ := List.forall_mem_cons.1 sound
  refine ⟨?_, ?_, Nat.zero_le room⟩
  · intro cells member cell held
    rcases List.mem_cons.1 member with rfl | member
    · exact (headers cell held).1
    · exact (rows cells (List.mem_reverse.1 member) cell held).1
  · intro cell held
    rcases List.mem_append.1 held with header | row
    · exact (headers cell header).2
    · obtain ⟨cells, member, held⟩ := List.mem_flatten.1 row
      exact (rows cells (List.mem_reverse.1 member) cell held).2

end OpenTable

namespace Reading

/-- Open blocks, the innermost first, each with the room that the outer ones leave. -/
def FramesSound : List Frame → Prop
  | [] => True
  | frame :: outer =>
      frame.Sound (nestingLimit - (outer.length + 1)) ∧ outer.length < nestingLimit ∧
        (frame.isScreen = true → outer.head?.any Frame.isWorkflow = true) ∧ FramesSound outer

namespace State

/-- The invariant of readings. -/
structure Sound (state : State) : Prop where
  frames : FramesSound state.frames
  table : ∀ table ∈ state.table, table.Sound
  finished : ∀ block ∈ state.finished, block.Sound nestingLimit

theorem sound_empty : State.empty.Sound :=
  ⟨trivial, by simp [State.empty], by simp [State.empty]⟩

namespace Sound

variable {state : State} {number : Nat} {line : Text}

theorem accept {block : Block} (sound : state.Sound)
    (inside : block.Sound (nestingLimit - state.frames.length)) : (state.accept block).Sound := by
  cases stacked : state.frames with
  | nil =>
      rw [accept_of_frames_eq_nil stacked]
      rw [stacked] at inside
      exact ⟨sound.frames, sound.table, List.forall_mem_cons.2 ⟨inside, sound.finished⟩⟩
  | cons frame outer =>
      cases added : frame.add? block with
      | none =>
          rw [accept_of_add?_eq_none stacked added]
          exact sound
      | some grown =>
          rw [accept_of_add? stacked added]
          rw [stacked] at inside
          have opened := sound.frames
          rw [stacked] at opened
          obtain ⟨inner, room, placed, rest⟩ := opened
          rw [← Frame.isScreen_add? added] at placed
          exact ⟨⟨inner.add? inside added, room, placed, rest⟩, sound.table, sound.finished⟩

/-- A screen that is finished in a workflow. -/
theorem accept_screen {screen : Screen} (sound : state.Sound) (workflow : state.inWorkflow = true)
    (inside : screen.Sound (nestingLimit - state.frames.length)) :
    (state.accept (.screen screen)).Sound := by
  rw [inWorkflow] at workflow
  cases stacked : state.frames with
  | nil =>
      rw [stacked] at workflow
      cases workflow
  | cons frame outer =>
      rw [stacked] at workflow inside
      have opened := sound.frames
      rw [stacked] at opened
      obtain ⟨inner, room, placed, rest⟩ := opened
      obtain ⟨grown, added, grownSound⟩ := inner.add?_screen inside workflow
      rw [accept_of_add? stacked added]
      rw [← Frame.isScreen_add? added] at placed
      exact ⟨⟨grownSound, room, placed, rest⟩, sound.table, sound.finished⟩

theorem pop (sound : state.Sound) : state.pop.Sound := by
  rw [State.pop]
  split
  · exact sound
  · rename_i frame outer stacked
    have opened := sound.frames
    rw [stacked] at opened
    obtain ⟨inner, room, placed, rest⟩ := opened
    have without : State.Sound { state with frames := outer } :=
      ⟨rest, sound.table, sound.finished⟩
    have freed : nestingLimit - (outer.length + 1) + 1 = nestingLimit - outer.length := by omega
    cases kind : frame.isScreen with
    | false =>
        have closed := inner.close kind
        rw [freed] at closed
        exact without.accept closed
    | true =>
        obtain ⟨screen, made, closed⟩ := inner.close_screen kind
        rw [freed] at closed
        rw [made]
        exact without.accept_screen (placed kind) closed

theorem endTable (sound : state.Sound) : state.endTable.Sound := by
  rw [State.endTable]
  split
  · exact sound
  · rename_i table opened
    have without : State.Sound { state with table := none } :=
      ⟨sound.frames, by simp, sound.finished⟩
    exact without.accept (sound.table table opened).close

theorem unwind (count : Nat) (sound : state.Sound) : (state.unwind count).Sound := by
  induction count generalizing state with
  | zero => exact sound
  | succ count ih => exact ih sound.pop

theorem close (sound : state.Sound) : state.close.Sound :=
  sound.endTable.unwind _

/-- What an opener opens, it opens with room inside. -/
theorem push {frame : Frame} (sound : state.Sound) (single : '\n' ∉ line)
    (made : Move.of number line state = .push frame) : (state.push frame).Sound := by
  obtain ⟨room, opener, opened, found⟩ := Move.of_eq_push made
  have within : opener.Within line ∧ (frame.isScreen = true → state.inWorkflow = true) := by
    cases inside : state.inWorkflow with
    | true =>
        rw [inside] at found
        exact ⟨Opener.within_ofWorkflowLine? found, fun _ => rfl⟩
    | false =>
        rw [inside] at found
        obtain ⟨within, plain⟩ := Opener.within_ofLine? found
        refine ⟨within, ?_⟩
        intro screen
        exact absurd screen (by simp [Frame.isScreen_of_frameOf? plain opened])
  exact ⟨⟨Frame.sound_of_frameOf? single within.1 opened, room, within.2, sound.frames⟩,
    sound.table, sound.finished⟩

variable {omitted : Omission}

/-- Every move keeps the invariant. -/
theorem make (sound : state.Sound) (single : '\n' ∉ line) :
    (state.make omitted number line (Move.of number line state)).Sound := by
  cases made : Move.of number line state with
  | close => exact sound.pop
  | skip => exact sound
  | table =>
      refine ⟨sound.frames, ?_, sound.finished⟩
      intro table opened
      cases opened
      exact OpenTable.sound_start number single
  | push frame => exact sound.push single made
  | item deep =>
      rw [State.make]
      split
      · exact sound
      · have filled : line ≠ [] := by
          rintro rfl
          cases Move.of_eq_item made
        have within := Item.within_ofLine filled
        apply sound.accept
        refine ⟨within.wellFormed, ?_, Nat.zero_le _⟩
        intro text held member
        exact single (within.subset text held member)

theorem next (sound : state.Sound) (single : '\n' ∉ line) :
    (state.next omitted number line).Sound := by
  rw [State.next]
  split
  · rename_i grown added
    obtain ⟨table, opened, added⟩ := Option.bind_eq_some_iff.1 added
    refine ⟨sound.frames, ?_, sound.finished⟩
    intro other found
    cases found
    exact (sound.table table opened).add? single added
  · exact sound.endTable.make single

/-- Whole readings keep the invariant. -/
theorem course (sound : state.Sound) (number : Nat) {lines : List Text}
    (single : ∀ line ∈ lines, '\n' ∉ line) : (state.course omitted number lines).Sound := by
  induction lines generalizing number state with
  | nil => exact sound.close
  | cons line lines ih =>
      obtain ⟨first, others⟩ := List.forall_mem_cons.1 single
      exact ih (sound.next first) (number + 1) others

end Sound

end State

/-! ## Documents -/

/-- No line of a text holds a line feed, however it is prepared. -/
theorem oneLine_of_mem_lines {options : Options} {text : Text} :
    ∀ line ∈ (lines text).map (prepare options), '\n' ∉ line := by
  intro line member
  obtain ⟨raw, read, rfl⟩ := List.mem_map.1 member
  obtain ⟨piece, cut, rfl⟩ := List.mem_map.1 read
  have single : '\n' ∉ (Text.before? ['\r'] piece).getD piece := by
    intro held
    cases returned : Text.before? ['\r'] piece with
    | none =>
        rw [returned] at held
        exact Text.not_mem_of_mem_splitOn cut held
    | some front =>
        rw [returned] at held
        exact Text.not_mem_of_mem_splitOn cut (Text.before?_subset returned held)
  rw [prepare]
  split
  · exact single
  · exact fun held => single (Text.trim_subset _ held)

theorem sound_blocks (options : Options) (registry : Registry) (text : Text) :
    ∀ block ∈ (read options registry text).document.blocks, block.Sound 64 := by
  have sound : (State.empty.course (omission options registry) 1
      ((lines text).map (prepare options))).Sound :=
    State.sound_empty.course 1 oneLine_of_mem_lines
  intro block member
  rw [document, read_blocks, List.mem_reverse] at member
  exact sound.finished block member

theorem allWellFormed_blocks (options : Options) (registry : Registry) (text : Text) :
    Block.AllWellFormed (read options registry text).document.blocks :=
  (Block.Sound.all (sound_blocks options registry text)).1

theorem depthOf_blocks_le (options : Options) (registry : Registry) (text : Text) :
    Block.depthOf (read options registry text).document.blocks ≤ 64 :=
  (Block.Sound.all (sound_blocks options registry text)).2.2

/-- Every document that is read is well-formed in all of its parts, holds no line feed, and has no
more than 64 blocks that stand in each other. -/
theorem read_blocks_wellFormed (options : Options) (registry : Registry) (text : Text) :
    ∀ block ∈ (read options registry text).document.blocks,
      block.WellFormed ∧ (∀ string ∈ block.texts, '\n' ∉ string) ∧ block.depth ≤ 64 := by
  intro block member
  obtain ⟨wellFormed, oneLine, depth_le⟩ := sound_blocks options registry text block member
  exact ⟨wellFormed, oneLine, depth_le⟩

/-- A workflow with a table on its only screen. -/
theorem read_blocks_wellFormed_workflow :
    let block := Block.workflow "a".toList
      [⟨"a".toList, [.table ⟨["x".toList, "y".toList], []⟩]⟩]
    block ∈ (read {} Registry.builtin "[workflow\n[screen a\n|x|y|".toList).document.blocks ∧
      block.WellFormed ∧ (∀ string ∈ block.texts, '\n' ∉ string) ∧ block.depth ≤ 64 := by
  intro block
  have only : (read {} Registry.builtin "[workflow\n[screen a\n|x|y|".toList).document.blocks =
      [block] := rfl
  rw [only]
  have member := only ▸ List.mem_singleton_self block
  exact ⟨List.mem_singleton_self block, read_blocks_wellFormed {} Registry.builtin _ block member⟩

end Reading

end Mockup
