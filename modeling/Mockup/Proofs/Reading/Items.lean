import Mockup.Proofs.Reading.Course
import Mockup.Proofs.WellFormed.Lines

/-!
# Where items come from

Reading puts nothing into a document that was not on a line of it. An item that stands anywhere in
the document, in a box or on a screen of a workflow, is what one of the lines was read as, and that
line was not left out. Whether a line is text and whether its item is a text is one question.
-/

namespace Mockup

namespace Item

variable {line : Text}

/-- Only the last resort makes texts. -/
theorem applyRule_eq_text {rule : Rule} {children : List Inline}
    (applied : applyRule rule line = .ok (some (.text children))) :
    rule = .text ∧ children = Inline.read line := by
  cases rule with
  | text =>
      cases applied
      exact ⟨rfl, rfl⟩
  | header =>
      simp [applyRule, header?, Option.bind_eq_some_iff] at applied
  | fieldGroup =>
      simp only [applyRule, fieldGroup?, Except.ok.injEq] at applied
      split at applied <;> cases applied
  | radioGroup =>
      simp only [applyRule, radioGroup?, Option.bind_eq_bind, Except.ok.injEq,
        Option.bind_eq_some_iff] at applied
      obtain ⟨⟨label, list⟩, -, made⟩ := applied
      split at made <;> cases made
  | image =>
      simp [applyRule, image?, Option.bind_eq_some_iff] at applied
  | buttonRow =>
      rw [applyRule] at applied
      cases read : Button.row? line with
      | error unreadable =>
          rw [read] at applied
          cases applied
      | ok row =>
          rw [read] at applied
          cases row <;> cases applied
  | dropdownOptions =>
      simp [applyRule, dropdownOptions?, Option.bind_eq_some_iff] at applied
  | password | textarea | textInput | checkbox | dropdown | primaryButton | outlineButton =>
      simp [applyRule] at applied

/-- A line that no rule reads is a text of its own inline nodes. -/
theorem ofLine_of_rule_eq_text (decided : (ofLine line).1 = .text) :
    (ofLine line).2 = .text (Inline.read line) := by
  have applied := applyRule_ofLine line
  rw [decided] at applied
  exact (Option.some.inj (Except.ok.inj applied)).symm

/-- A line that is read as a text was read by no rule. -/
theorem rule_eq_text_of_ofLine {children : List Inline}
    (made : (ofLine line).2 = .text children) :
    (ofLine line).1 = .text ∧ children = Inline.read line := by
  have applied := applyRule_ofLine line
  rw [made] at applied
  exact applyRule_eq_text applied

end Item

/-! ## The items in a document -/

mutual

/-- The items in a block, at any depth. -/
def Block.items : Block → List Item
  | .item inner => [inner]
  | .table _ => []
  | .box _ children => Block.itemsOf children
  | .screen inner => inner.items
  | .workflow _ screens => Screen.itemsOf screens

def Block.itemsOf : List Block → List Item
  | [] => []
  | block :: blocks => block.items ++ Block.itemsOf blocks

def Screen.items : Screen → List Item
  | ⟨_, children⟩ => Block.itemsOf children

def Screen.itemsOf : List Screen → List Item
  | [] => []
  | screen :: screens => screen.items ++ Screen.itemsOf screens

end

theorem Block.mem_itemsOf {item : Item} {blocks : List Block} :
    item ∈ Block.itemsOf blocks ↔ ∃ block ∈ blocks, item ∈ block.items := by
  induction blocks with
  | nil => simp [Block.itemsOf]
  | cons block blocks ih => simp [Block.itemsOf, ih]

theorem Screen.mem_itemsOf {item : Item} {screens : List Screen} :
    item ∈ Screen.itemsOf screens ↔ ∃ screen ∈ screens, item ∈ screen.items := by
  induction screens with
  | nil => simp [Screen.itemsOf]
  | cons screen screens ih => simp [Screen.itemsOf, ih]

namespace Frame

/-- The items in an open block. -/
def items : Frame → List Item
  | .box _ _ children | .screen _ _ children => Block.itemsOf children
  | .workflow _ _ screens => Screen.itemsOf screens

variable {frame grown : Frame}

theorem items_add? {block : Block} (added : frame.add? block = some grown) :
    grown.items = block.items ++ frame.items := by
  cases takes_of_add? added <;> rfl

theorem items_close_subset (frame : Frame) : frame.close.items ⊆ frame.items := by
  intro item member
  cases frame with
  | box | screen =>
      obtain ⟨child, held, inside⟩ := Block.mem_itemsOf.1 member
      exact Block.mem_itemsOf.2 ⟨child, List.mem_reverse.1 held, inside⟩
  | workflow =>
      obtain ⟨screen, held, inside⟩ := Screen.mem_itemsOf.1 member
      exact Screen.mem_itemsOf.2 ⟨screen, List.mem_reverse.1 held, inside⟩

/-- Nothing has been put into a frame that was just opened. -/
theorem items_of_frameOf? {number : Nat} {opener : Opener}
    (opened : Reading.frameOf? number opener = some frame) : frame.items = [] := by
  cases opener with
  | table => cases opened
  | card | grid | div | screen | workflow =>
      cases opened
      rfl

end Frame

namespace Reading

namespace State

/-- The items in everything that has been read. -/
def items (state : State) : List Item :=
  state.frames.flatMap Frame.items ++ Block.itemsOf state.finished

variable {state : State} {number : Nat} {line : Text}

theorem items_accept_subset (block : Block) (state : State) :
    (state.accept block).items ⊆ block.items ++ state.items := by
  cases stacked : state.frames with
  | nil =>
      rw [accept_of_frames_eq_nil stacked]
      simp [items, stacked, Block.itemsOf]
  | cons frame outer =>
      cases added : frame.add? block with
      | none =>
          rw [accept_of_add?_eq_none stacked added]
          exact List.subset_append_right _ _
      | some grown =>
          rw [accept_of_add? stacked added]
          simp [items, stacked, Frame.items_add? added]

theorem items_pop_subset (state : State) : state.pop.items ⊆ state.items := by
  rw [pop]
  split
  · exact List.Subset.refl _
  · rename_i frame outer stacked
    have whole : state.items = frame.items ++ items { state with frames := outer } := by
      simp [items, stacked]
    rw [whole]
    apply List.Subset.trans (items_accept_subset _ _)
    apply List.append_subset.2
    constructor
    · exact List.subset_append_of_subset_left _ frame.items_close_subset
    · exact List.subset_append_right _ _

theorem items_endTable_subset (state : State) : state.endTable.items ⊆ state.items := by
  rw [endTable]
  split
  · exact List.Subset.refl _
  · exact items_accept_subset _ _

theorem items_unwind_subset (count : Nat) (state : State) :
    (state.unwind count).items ⊆ state.items := by
  induction count generalizing state with
  | zero => exact List.Subset.refl _
  | succ count ih => exact List.Subset.trans (ih state.pop) (items_pop_subset state)

theorem items_close_subset (state : State) : state.close.items ⊆ state.items :=
  List.Subset.trans (items_unwind_subset _ _) (items_endTable_subset state)

variable {omitted : Omission} {origin : Item → Prop}

/-- A move adds nothing but the item of a line that is not left out. -/
theorem items_make (before : ∀ item ∈ state.items, origin item)
    (kept : ∀ deep, omitted line deep = false → origin (Item.ofLine line).2) :
    ∀ item ∈ (state.make omitted number line (Move.of number line state)).items, origin item := by
  cases made : Move.of number line state with
  | close =>
      intro item member
      exact before item (items_pop_subset state member)
  | skip | table => exact before
  | push frame =>
      obtain ⟨-, opener, opened, -⟩ := Move.of_eq_push made
      intro item member
      apply before item
      simpa [make, State.push, items, Frame.items_of_frameOf? opened] using member
  | item deep =>
      rw [make]
      split
      · exact before
      · rename_i present
        intro item member
        rcases List.mem_append.1 (items_accept_subset _ _ member) with new | old
        · rw [List.mem_singleton.1 new]
          exact kept deep (eq_false_of_ne_true present)
        · exact before item old

theorem items_next (before : ∀ item ∈ state.items, origin item)
    (kept : ∀ deep, omitted line deep = false → origin (Item.ofLine line).2) :
    ∀ item ∈ (state.next omitted number line).items, origin item := by
  rw [next]
  split
  · exact before
  · apply items_make
    · intro item member
      exact before item (items_endTable_subset state member)
    · exact kept

/-- Whole readings add nothing but the items of lines that are not left out. -/
theorem items_course {lines : List Text} (before : ∀ item ∈ state.items, origin item)
    (kept : ∀ line ∈ lines, ∀ deep, omitted line deep = false → origin (Item.ofLine line).2) :
    ∀ item ∈ (state.course omitted number lines).items, origin item := by
  induction lines generalizing number state with
  | nil =>
      intro item member
      exact before item (items_close_subset state member)
  | cons line lines ih =>
      obtain ⟨first, others⟩ := List.forall_mem_cons.1 kept
      exact ih (items_next before first) others

end State

/-- Every item of a document was read from a line of the text that was not left out. -/
theorem exists_line_of_mem_itemsOf {options : Options} {registry : Registry} {text : Text}
    {item : Item} (member : item ∈ Block.itemsOf (read options registry text).blocks) :
    ∃ line ∈ (lines text).map (prepare options), ∃ deep,
      omission options registry line deep = false ∧ item = (Item.ofLine line).2 := by
  have finished : item ∈ (State.empty.course (omission options registry) 1
      ((lines text).map (prepare options))).items := by
    rw [read_blocks] at member
    obtain ⟨block, held, inside⟩ := Block.mem_itemsOf.1 member
    apply List.mem_append_right
    exact Block.mem_itemsOf.2 ⟨block, List.mem_reverse.1 held, inside⟩
  have traced : ∀ item ∈ (State.empty.course (omission options registry) 1
      ((lines text).map (prepare options))).items,
      ∃ line ∈ (lines text).map (prepare options), ∃ deep,
        omission options registry line deep = false ∧ item = (Item.ofLine line).2 := by
    apply State.items_course
    · simp [State.items, State.empty, Block.itemsOf]
    · intro line read deep present
      exact ⟨line, read, deep, present, rfl⟩
  exact traced item finished

end Reading

end Mockup
