import Mathlib.Data.List.Forall2
import Mockup.Proofs.Reading.Course

/-!
# Thinned documents

A document is thinned by leaving out items, in any of its lists of blocks and at any depth. Tables,
boxes, screens and workflows stay where they are and keep what describes them. Readings that leave
out more lines thin the document and do nothing else to it: in two readings of one text the same
blocks are open after each line, and every line makes the same move in both of them.
-/

namespace Mockup

mutual

/-- The second block is the first one, thinned inside. Only items that satisfy `spare` are left
out. -/
inductive Block.Thins (spare : Item → Prop) : Block → Block → Prop where
  | item (item : Item) : Block.Thins spare (.item item) (.item item)
  | table (table : Table) : Block.Thins spare (.table table) (.table table)
  | box (outer : Box) {children remaining : List Block} :
      Block.ThinsAll spare children remaining →
        Block.Thins spare (.box outer children) (.box outer remaining)
  | screen {full thin : Screen} : Screen.Thins spare full thin →
      Block.Thins spare (.screen full) (.screen thin)
  | workflow (initial : Text) {screens remaining : List Screen} :
      Screen.ThinsAll spare screens remaining →
        Block.Thins spare (.workflow initial screens) (.workflow initial remaining)

/-- The second list of blocks is the first one, thinned. -/
inductive Block.ThinsAll (spare : Item → Prop) : List Block → List Block → Prop where
  | nil : Block.ThinsAll spare [] []
  | keep {full thin : Block} {blocks remaining : List Block} : Block.Thins spare full thin →
      Block.ThinsAll spare blocks remaining →
        Block.ThinsAll spare (full :: blocks) (thin :: remaining)
  | drop {item : Item} {blocks remaining : List Block} : spare item →
      Block.ThinsAll spare blocks remaining →
        Block.ThinsAll spare (.item item :: blocks) remaining

/-- The second screen is the first one, thinned inside. -/
inductive Screen.Thins (spare : Item → Prop) : Screen → Screen → Prop where
  | mk (id : Text) {children remaining : List Block} :
      Block.ThinsAll spare children remaining → Screen.Thins spare ⟨id, children⟩ ⟨id, remaining⟩

/-- The screens of the second list are those of the first one, each of them thinned inside. -/
inductive Screen.ThinsAll (spare : Item → Prop) : List Screen → List Screen → Prop where
  | nil : Screen.ThinsAll spare [] []
  | cons {full thin : Screen} {screens remaining : List Screen} : Screen.Thins spare full thin →
      Screen.ThinsAll spare screens remaining →
        Screen.ThinsAll spare (full :: screens) (thin :: remaining)

end

variable {spare : Item → Prop}

namespace Block.ThinsAll

theorem append {front kept : List Block} (thinned : ThinsAll spare front kept)
    {rest remaining : List Block} (thins : ThinsAll spare rest remaining) :
    ThinsAll spare (front ++ rest) (kept ++ remaining) := by
  induction front generalizing kept with
  | nil =>
      cases thinned with
      | nil => exact thins
  | cons block front ih =>
      cases thinned with
      | keep inside behind => exact .keep inside (ih behind)
      | drop spared behind => exact .drop spared (ih behind)

/-- Open blocks hold their parts in reverse. -/
theorem reverse {blocks remaining : List Block} (thinned : ThinsAll spare blocks remaining) :
    ThinsAll spare blocks.reverse remaining.reverse := by
  induction blocks generalizing remaining with
  | nil =>
      cases thinned with
      | nil => exact .nil
  | cons block blocks ih =>
      cases thinned with
      | keep inside behind =>
          rw [List.reverse_cons, List.reverse_cons]
          exact (ih behind).append (.keep inside .nil)
      | drop spared behind =>
          rw [List.reverse_cons, ← List.append_nil remaining.reverse]
          exact (ih behind).append (.drop spared .nil)

end Block.ThinsAll

namespace Screen.ThinsAll

theorem append {front kept : List Screen} (thinned : ThinsAll spare front kept)
    {rest remaining : List Screen} (thins : ThinsAll spare rest remaining) :
    ThinsAll spare (front ++ rest) (kept ++ remaining) := by
  induction front generalizing kept with
  | nil =>
      cases thinned with
      | nil => exact thins
  | cons screen front ih =>
      cases thinned with
      | cons inside behind => exact .cons inside (ih behind)

theorem reverse {screens remaining : List Screen} (thinned : ThinsAll spare screens remaining) :
    ThinsAll spare screens.reverse remaining.reverse := by
  induction screens generalizing remaining with
  | nil =>
      cases thinned with
      | nil => exact .nil
  | cons screen screens ih =>
      cases thinned with
      | cons inside behind =>
          rw [List.reverse_cons, List.reverse_cons]
          exact (ih behind).append (.cons inside .nil)

/-- Thinned workflows start with the same screen. -/
theorem head?_id {screens remaining : List Screen} (thinned : ThinsAll spare screens remaining) :
    screens.head?.map Screen.id = remaining.head?.map Screen.id := by
  cases thinned with
  | nil => rfl
  | cons inside behind =>
      cases inside with
      | mk id children => rfl

end Screen.ThinsAll

/-- The second open block is the first one, thinned inside. -/
inductive Frame.Thins (spare : Item → Prop) : Frame → Frame → Prop where
  | box (line : Nat) (outer : Box) {children remaining : List Block} :
      Block.ThinsAll spare children remaining →
        Thins spare (.box line outer children) (.box line outer remaining)
  | screen (line : Nat) (id : Text) {children remaining : List Block} :
      Block.ThinsAll spare children remaining →
        Thins spare (.screen line id children) (.screen line id remaining)
  | workflow (line : Nat) (initial : Option Text) {screens remaining : List Screen} :
      Screen.ThinsAll spare screens remaining →
        Thins spare (.workflow line initial screens) (.workflow line initial remaining)

namespace Frame.Thins

/-- A frame that nothing has been put into is not changed. -/
theorem of_frameOf? {number : Nat} {opener : Opener} {frame : Frame}
    (opened : Reading.frameOf? number opener = some frame) : Frame.Thins spare frame frame := by
  cases opener with
  | table => simp [Reading.frameOf?, Reading.openFrame?] at opened
  | card | grid | div | screen | workflow =>
      simp only [Reading.frameOf?, Reading.openFrame?, Option.map_some, Option.some.injEq] at opened
      rw [← opened]
      constructor
      constructor

variable {full thin : Frame}

theorem line_eq (thinned : Frame.Thins spare full thin) : full.line = thin.line := by
  cases thinned <;> rfl

theorem closer_eq (thinned : Frame.Thins spare full thin) : full.closer = thin.closer := by
  cases thinned <;> rfl

theorem isWorkflow_eq (thinned : Frame.Thins spare full thin) :
    full.isWorkflow = thin.isWorkflow := by
  cases thinned <;> rfl

/-- What is finished is thinned like what was open, and the default initial screen stays. -/
theorem close (thinned : Frame.Thins spare full thin) :
    Block.Thins spare full.close thin.close := by
  cases thinned with
  | box line outer children => exact .box outer children.reverse
  | screen line id children => exact .screen (.mk id children.reverse)
  | workflow line initial screens =>
      simp only [Frame.close, screens.reverse.head?_id]
      exact .workflow _ screens.reverse

/-- A thinned frame takes a thinned block if the frame takes the block. -/
theorem add? (thinned : Frame.Thins spare full thin) {block remaining : Block}
    (inside : Block.Thins spare block remaining) :
    (full.add? block = none ∧ thin.add? remaining = none) ∨
      ∃ grown shrunk, full.add? block = some grown ∧ thin.add? remaining = some shrunk ∧
        Frame.Thins spare grown shrunk := by
  cases thinned with
  | box line outer children =>
      exact .inr ⟨_, _, rfl, rfl, .box line outer (.keep inside children)⟩
  | screen line id children =>
      exact .inr ⟨_, _, rfl, rfl, .screen line id (.keep inside children)⟩
  | workflow line initial screens =>
      cases inside with
      | screen screen =>
          exact .inr ⟨_, _, rfl, rfl, .workflow line initial (.cons screen screens)⟩
      | item | table | box | workflow => exact .inl ⟨rfl, rfl⟩

/-- An item that may be left out is not missed in a thinned frame. -/
theorem add?_item (thinned : Frame.Thins spare full thin) {item : Item} (spared : spare item) :
    full.add? (.item item) = none ∨
      ∃ grown, full.add? (.item item) = some grown ∧ Frame.Thins spare grown thin := by
  cases thinned with
  | box line outer children => exact .inr ⟨_, rfl, .box line outer (.drop spared children)⟩
  | screen line id children => exact .inr ⟨_, rfl, .screen line id (.drop spared children)⟩
  | workflow line initial screens => exact .inl rfl

end Frame.Thins

namespace Reading

/-- The second reading leaves out what the first one leaves out, and beyond that nothing but items
that satisfy `spare`. -/
structure Tightens (spare : Item → Prop) (loose tight : Omission) : Prop where
  more : ∀ line deep, loose line deep = true → tight line deep = true
  spared : ∀ line deep, loose line deep = false → tight line deep = true →
    spare (Item.ofLine line).2

namespace State

/-- The second state is the first one, thinned. The same blocks are open in both of them. -/
structure Thins (spare : Item → Prop) (full thin : State) : Prop where
  frames : List.Forall₂ (Frame.Thins spare) full.frames thin.frames
  table : full.table = thin.table
  finished : Block.ThinsAll spare full.finished thin.finished

namespace Thins

variable {full thin : State} {number : Nat} {line : Text}

theorem empty : Thins spare State.empty State.empty :=
  ⟨.nil, rfl, .nil⟩

/-- The innermost frames of the states, if there are any. -/
theorem frames_cases (thinned : Thins spare full thin) :
    (full.frames = [] ∧ thin.frames = []) ∨
      ∃ frame outer thinFrame thinOuter, full.frames = frame :: outer ∧
        thin.frames = thinFrame :: thinOuter ∧ Frame.Thins spare frame thinFrame ∧
        List.Forall₂ (Frame.Thins spare) outer thinOuter := by
  cases stacked : full.frames with
  | nil =>
      have closed := thinned.frames
      rw [stacked, List.forall₂_nil_left_iff] at closed
      exact .inl ⟨rfl, closed⟩
  | cons frame outer =>
      have opened := thinned.frames
      rw [stacked, List.forall₂_cons_left_iff] at opened
      obtain ⟨thinFrame, thinOuter, inner, rest, thinStacked⟩ := opened
      exact .inr ⟨frame, outer, thinFrame, thinOuter, rfl, thinStacked, inner, rest⟩

theorem inWorkflow_eq (thinned : Thins spare full thin) : full.inWorkflow = thin.inWorkflow := by
  rw [inWorkflow, inWorkflow]
  rcases thinned.frames_cases with
    ⟨closed, thinClosed⟩ | ⟨frame, outer, thinFrame, thinOuter, stacked, thinStacked, inner, rest⟩
  · rw [closed, thinClosed]
  · simp [stacked, thinStacked, inner.isWorkflow_eq]

/-- A line makes the same move in both states. -/
theorem move_eq (thinned : Thins spare full thin) :
    Move.of number line full = Move.of number line thin := by
  have sameLength : full.frames.length = thin.frames.length := thinned.frames.length_eq
  have sameCloser : (full.frames.head?.any fun frame => frame.closer = line) =
      thin.frames.head?.any fun frame => frame.closer = line := by
    rcases thinned.frames_cases with
      ⟨closed, thinClosed⟩ | ⟨frame, outer, thinFrame, thinOuter, stacked, thinStacked, inner, rest⟩
    · rw [closed, thinClosed]
    · simp [stacked, thinStacked, inner.closer_eq]
  rw [Move.of, Move.of, sameLength, sameCloser, thinned.inWorkflow_eq]

/-- Blocks are put at the same place, or dropped in both states. -/
theorem accept (thinned : Thins spare full thin) {block remaining : Block}
    (inside : Block.Thins spare block remaining) :
    Thins spare (full.accept block) (thin.accept remaining) := by
  rcases thinned.frames_cases with
    ⟨closed, thinClosed⟩ | ⟨frame, outer, thinFrame, thinOuter, stacked, thinStacked, inner, rest⟩
  · rw [accept_of_frames_eq_nil closed, accept_of_frames_eq_nil thinClosed]
    exact ⟨thinned.frames, thinned.table, .keep inside thinned.finished⟩
  · rcases inner.add? inside with ⟨dropped, thinDropped⟩ | ⟨grown, shrunk, added, thinAdded, grows⟩
    · rw [accept_of_add?_eq_none stacked dropped, accept_of_add?_eq_none thinStacked thinDropped]
      exact thinned
    · rw [accept_of_add? stacked added, accept_of_add? thinStacked thinAdded]
      exact ⟨.cons grows rest, thinned.table, thinned.finished⟩

/-- An item that may be left out of the second state. -/
theorem accept_item (thinned : Thins spare full thin) {item : Item} (spared : spare item) :
    Thins spare (full.accept (.item item)) thin := by
  rcases thinned.frames_cases with
    ⟨closed, thinClosed⟩ | ⟨frame, outer, thinFrame, thinOuter, stacked, thinStacked, inner, rest⟩
  · rw [accept_of_frames_eq_nil closed]
    exact ⟨thinned.frames, thinned.table, .drop spared thinned.finished⟩
  · rcases inner.add?_item spared with dropped | ⟨grown, added, grows⟩
    · rw [accept_of_add?_eq_none stacked dropped]
      exact thinned
    · rw [accept_of_add? stacked added]
      refine ⟨?_, thinned.table, thinned.finished⟩
      rw [thinStacked]
      exact .cons grows rest

theorem pop (thinned : Thins spare full thin) : Thins spare full.pop thin.pop := by
  rw [State.pop, State.pop]
  rcases thinned.frames_cases with
    ⟨closed, thinClosed⟩ | ⟨frame, outer, thinFrame, thinOuter, stacked, thinStacked, inner, rest⟩
  · rw [closed, thinClosed]
    exact thinned
  · rw [stacked, thinStacked]
    have without : Thins spare { full with frames := outer } { thin with frames := thinOuter } :=
      ⟨rest, thinned.table, thinned.finished⟩
    exact without.accept inner.close

theorem endTable (thinned : Thins spare full thin) : Thins spare full.endTable thin.endTable := by
  rw [State.endTable, State.endTable, thinned.table]
  cases thin.table with
  | none => exact thinned
  | some table =>
      have without : Thins spare { full with table := none } { thin with table := none } :=
        ⟨thinned.frames, rfl, thinned.finished⟩
      exact without.accept (.table _)

theorem unwind (count : Nat) (thinned : Thins spare full thin) :
    Thins spare (full.unwind count) (thin.unwind count) := by
  induction count generalizing full thin with
  | zero => exact thinned
  | succ count ih => exact ih thinned.pop

theorem close (thinned : Thins spare full thin) : Thins spare full.close thin.close := by
  rw [State.close, State.close, thinned.endTable.frames.length_eq]
  exact thinned.endTable.unwind _

variable {loose tight : Omission}

/-- Every move keeps the states together. -/
theorem make (tightens : Tightens spare loose tight)
    (thinned : Thins spare full thin) :
    Thins spare (full.make loose number line (Move.of number line full))
      (thin.make tight number line (Move.of number line thin)) := by
  rw [← thinned.move_eq]
  cases made : Move.of number line full with
  | close => exact thinned.pop
  | skip => exact thinned
  | table => exact ⟨thinned.frames, rfl, thinned.finished⟩
  | push frame =>
      obtain ⟨-, opener, opened, -⟩ := Move.of_eq_push made
      exact ⟨.cons (.of_frameOf? opened) thinned.frames, thinned.table, thinned.finished⟩
  | item deep =>
      simp only [State.make]
      cases left : loose line deep with
      | true =>
          rw [tightens.more line deep left]
          exact thinned
      | false =>
          cases leaves : tight line deep with
          | true => exact thinned.accept_item (tightens.spared line deep left leaves)
          | false => exact thinned.accept (.item _)

theorem next (tightens : Tightens spare loose tight)
    (thinned : Thins spare full thin) :
    Thins spare (full.next loose number line) (thin.next tight number line) := by
  rw [State.next, State.next, thinned.table]
  cases thin.table.bind fun table => table.add? line with
  | some table => exact ⟨thinned.frames, rfl, thinned.finished⟩
  | none => exact thinned.endTable.make tightens

/-- Whole readings keep the states together. -/
theorem course (tightens : Tightens spare loose tight)
    (thinned : Thins spare full thin) (number : Nat) (lines : List Text) :
    Thins spare (full.course loose number lines) (thin.course tight number lines) := by
  induction lines generalizing number full thin with
  | nil => exact thinned.close
  | cons line lines ih => exact ih (thinned.next tightens) (number + 1)

end Thins

end State

end Reading

end Mockup
