import Mathlib.Data.List.Forall2
import Mockup.Proofs.Draft.Notation
import Mockup.Proofs.Reading

/-!
# Drafts are read back

Reading the lines of a draft leads from any state with enough room to the same state with the
blocks of the draft in it, and nothing worth mentioning is reported on the way. The induction is
over the nesting of drafts: every closing line ends exactly the block that its own opening line
has started, because everything in between has been closed before.
-/

namespace Mockup

namespace Reading

variable {options : Options} {registry : Registry} {number : Nat} {line : Text}
variable {state target : State}

/-- Reports that only say how a line was read. -/
def Note.Routine : Note → Prop
  | .event (.classified ..) | .event (.fellBack _) => True
  | _ => False

/-- Reading lines leads from one state to another, with nothing but routine reports. -/
def Leads (options : Options) (registry : Registry) (number : Nat) (lines : List Text)
    (state target : State) : Prop :=
  ∃ notes, steps options registry number lines state = (target, notes) ∧
    ∀ note ∈ notes, Note.Routine note

theorem Leads.nil : Leads options registry number [] state state :=
  ⟨[], rfl, by simp⟩

theorem Leads.append {front rest : List Text} {middle : State}
    (first : Leads options registry number front state middle)
    (second : Leads options registry (number + front.length) rest middle target) :
    Leads options registry number (front ++ rest) state target := by
  obtain ⟨earlier, firstSteps, firstQuiet⟩ := first
  obtain ⟨later, secondSteps, secondQuiet⟩ := second
  refine ⟨earlier ++ later, ?_, List.forall_mem_append.2 ⟨firstQuiet, secondQuiet⟩⟩
  rw [steps_append, firstSteps, secondSteps]

theorem Leads.of_step {notes : List Note}
    (stepped : step options registry number line state = (target, notes))
    (quiet : ∀ note ∈ notes, Note.Routine note) :
    Leads options registry number [line] state target :=
  ⟨notes, by simp [steps, stepped], quiet⟩

theorem Leads.cons {lines : List Text} {middle : State}
    (stepped : step options registry number line state = (middle, []))
    (rest : Leads options registry (number + 1) lines middle target) :
    Leads options registry number (line :: lines) state target :=
  (Leads.of_step stepped (by simp)).append rest

/-- A line that starts with an opening bracket is neither blank nor a closer. -/
theorem bracket_cases (bracket : line.head? = some '[') :
    Text.allBlank line = false ∧ line ≠ "]".toList ∧ line ≠ "--]".toList := by
  cases line with
  | nil => simp at bracket
  | cons first rest =>
      obtain rfl : first = '[' := by simpa using bracket
      refine ⟨?_, by simp, by simp⟩
      rw [Text.allBlank, List.all_cons]
      rfl

/-- An opening line opens its block if there is room for it. -/
theorem step_opening {opener : Opener} {frame : Frame} (idle : state.table = none)
    (bracket : line.head? = some '[')
    (found : (if state.inWorkflow then Opener.ofWorkflowLine? line else Opener.ofLine? line) =
      some opener)
    (opened : openFrame? options number opener = some (frame, []))
    (room : state.frames.length < nestingLimit) :
    step options registry number line state = (state.push frame, []) := by
  obtain ⟨visible, notBlock, notCard⟩ := bracket_cases bracket
  rw [step_of_table_eq_none idle, readLine, if_neg (by simp [closer_ne notBlock notCard]),
    if_neg (by simp [visible]), found]
  simp [readOpener, opened, room]

/-- What stands between the opening and the closing line of a block ends up in the block. -/
theorem Leads.enclosed {opening closing : Text} {lines : List Text} {frame full : Frame}
    (idle : state.table = none)
    (opened : step options registry number opening state = (state.push frame, []))
    (inside : Leads options registry (number + 1) lines (state.push frame) (state.push full))
    (closes : full.closer = closing)
    (taken : state.put options full.line full.close = (target, [])) :
    Leads options registry number (opening :: lines ++ [closing]) state target := by
  have last : ∀ number,
      step options registry number closing (state.push full) = (target, []) := by
    intro number
    have idleInside : (state.push full).table = none := idle
    rw [step_of_table_eq_none idleInside, readLine_closer rfl closes, ← taken]
    rfl
  exact Leads.append (Leads.cons opened inside) (Leads.of_step (last _) (by simp))

/-- A frame collects the parts it is given, the latest first. -/
theorem State.acceptAll_push {α : Type} (block : α → Block) (frame : List α → Frame)
    (adds : ∀ part parts, (frame parts).add? (block part) = some (frame (part :: parts)))
    (parts : List α) (state : State) :
    (state.push (frame [])).acceptAll (parts.map block) = state.push (frame parts.reverse) := by
  have collects : ∀ more earlier : List α, (state.push (frame earlier)).acceptAll (more.map block) =
      state.push (frame (more.reverse ++ earlier)) := by
    intro more
    induction more with
    | nil => exact fun _ => rfl
    | cons part more ih =>
        intro earlier
        have first : (state.push (frame earlier)).accept (block part) =
            state.push (frame (part :: earlier)) := by
          simp [State.accept, State.push, adds]
        rw [List.map_cons, State.acceptAll, List.foldl_cons, first, List.reverse_cons,
          List.append_assoc]
        exact ih (part :: earlier)
  simpa using collects parts []

/-- A frame that takes any blocks collects them, the latest first. -/
theorem State.acceptAll_push_blocks (frame : List Block → Frame)
    (adds : ∀ block blocks, (frame blocks).add? block = some (frame (block :: blocks)))
    (blocks : List Block) (state : State) :
    (state.push (frame [])).acceptAll blocks = state.push (frame blocks.reverse) := by
  have collected := State.acceptAll_push id frame adds blocks state
  rwa [List.map_id] at collected

/-- Whether a plain line is kept: strict reading leaves out text that fails a check. -/
def Accepted (options : Options) (registry : Registry) (line : Text) : Prop :=
  options.strict = true → (Item.ofLine line).1 = .text → registry.failures options.checks line = []

theorem Leads.plainLine (content : Draft.PlainLine) (idle : state.table = none)
    (outside : state.inWorkflow = false) (accepted : Accepted options registry content.text) :
    Leads options registry number [content.text] state
      (state.accept (.item (Item.ofLine content.text).2)) := by
  have visible : Text.allBlank content.text = false := by
    cases blank : Text.allBlank content.text with
    | false => rfl
    | true =>
        have empty := Text.trim_eq_nil_iff.2 blank
        exact absurd (content.trimmed.symm.trans empty) content.nonempty
  have passed : (if (Item.ofLine content.text).1 = .text ∧ options.strict = true then
      registry.failures options.checks content.text else []) = [] := by
    split
    · rename_i checked
      exact accepted checked.2 checked.1
    · rfl
  have stepped : step options registry number content.text state =
      (state.accept (.item (Item.ofLine content.text).2),
        [.event (if (Item.ofLine content.text).1 = .text then .fellBack content.text
          else .classified content.text (Item.ofLine content.text).1)]) := by
    rw [step_of_table_eq_none idle, readLine,
      if_neg (by simp [closer_ne content.closesNoBlock content.closesNoCard]),
      if_neg (by simp [visible]), outside]
    simp [content.opensNothing, readItem, passed, State.put_of_not_inWorkflow outside]
  apply Leads.of_step stepped
  intro note member
  rw [List.mem_singleton.1 member]
  split <;> trivial

theorem isBlank_bar : Text.isBlank '|' = false := by decide

theorem bar_mem_rowLine (cells : List Text) : '|' ∈ Draft.rowLine cells := by
  simp [Draft.rowLine]

/-- The rows of a table are added to the open one. -/
theorem Leads.addedRows (rows : List Draft.Row) (line : Nat) (headers : List Text)
    (earlier : List (List Text)) :
    Leads options registry number (rows.map fun row => Draft.rowLine row.texts)
      { state with table := some ⟨line, headers, earlier, false⟩ }
      { state with
        table := some ⟨line, headers, (rows.map Draft.Row.texts).reverse ++ earlier, false⟩ } := by
  induction rows generalizing earlier number with
  | nil => exact Leads.nil
  | cons row rows ih =>
      have added : OpenTable.add? ⟨line, headers, earlier, false⟩ (Draft.rowLine row.texts) =
          some ⟨line, headers, row.texts :: earlier, false⟩ := by
        simp [OpenTable.add?, bar_mem_rowLine, row.cells_rowLine_texts]
      have order : ((row :: rows).map Draft.Row.texts).reverse ++ earlier =
          (rows.map Draft.Row.texts).reverse ++ row.texts :: earlier := by simp
      rw [order]
      exact Leads.cons (step_of_add? rfl added) (ih (row.texts :: earlier))

/-- The rows of a table, and the empty line that ends it. -/
theorem Leads.rows (rows : List Draft.Row) (line : Nat) (headers : List Text)
    (outside : state.inWorkflow = false) :
    Leads options registry number (rows.map (fun row => Draft.rowLine row.texts) ++ [[]])
      { state with table := some ⟨line, headers, [], false⟩ }
      (State.accept (.table ⟨headers, rows.map Draft.Row.texts⟩)
        { state with table := none }) := by
  have ended : ∀ table : OpenTable, table.add? [] = none := by simp [OpenTable.add?]
  have outsideTable : State.inWorkflow { state with table := none } = false := outside
  apply (Leads.addedRows rows line headers []).append (Leads.cons _ Leads.nil)
  rw [step_of_add?_eq_none rfl (ended _), State.put_of_not_inWorkflow outsideTable]
  simp [readLine_nil, OpenTable.close]

/-- The header of a table opens it. -/
theorem step_header (header : Draft.Row) (idle : state.table = none)
    (outside : state.inWorkflow = false) :
    step options registry number (Draft.rowLine header.texts) state =
      ({ state with table := some ⟨number, header.texts, [], true⟩ }, []) := by
  have notBlock : Draft.rowLine header.texts ≠ "]".toList := by simp [Draft.rowLine]
  have notCard : Draft.rowLine header.texts ≠ "--]".toList := by simp [Draft.rowLine]
  rw [step_of_table_eq_none idle, readLine, if_neg (by simp [closer_ne notBlock notCard]),
    if_neg (by simp [Draft.rowLine, Text.allBlank, isBlank_bar]), outside]
  simp [header.ofLine?_rowLine_texts, readOpener, openFrame?, OpenTable.start,
    header.cells_rowLine_texts]

/-- A table from its header to the empty line behind it. -/
theorem Leads.table (header : Draft.Row) (rows : List Draft.Row) (idle : state.table = none)
    (outside : state.inWorkflow = false) :
    Leads options registry number (Draft.table header rows).lines state
      (state.accept (Draft.table header rows).block) := by
  have separated : OpenTable.add? ⟨number, header.texts, [], true⟩ Draft.separator =
      some ⟨number, header.texts, [], false⟩ := by
    simp [OpenTable.add?, Draft.separator]
  have body : Leads options registry (number + 2)
      (rows.map (fun row => Draft.rowLine row.texts) ++ [[]])
      { state with table := some ⟨number, header.texts, [], false⟩ }
      (State.accept (.table ⟨header.texts, rows.map Draft.Row.texts⟩)
        { state with table := none }) := Leads.rows rows number header.texts outside
  rw [← idle] at body
  exact Leads.cons (step_header header idle outside) (Leads.cons (step_of_add? rfl separated) body)

end Reading

/-! ## Drafts -/

theorem Draft.BoxHead.head?_opening (head : Draft.BoxHead) : head.opening.head? = some '[' := by
  cases head with
  | card title => cases title <;> rfl
  | grid config => rfl
  | div className => cases className <;> rfl

/-- A workflow that is closed starts on the screen that its draft says. -/
theorem Draft.close_workflow (initial : Option Draft.InitialName) (screens : List DraftScreen)
    (number : Nat) :
    Frame.close (.workflow number (initial.map fun initial => initial.text)
      (DraftScreen.screensOf screens).reverse) = (Draft.workflow initial screens).block := by
  rw [Frame.close, List.reverse_reverse, Draft.block]
  cases initial with
  | some initial => rfl
  | none =>
      cases screens with
      | nil => rfl
      | cons screen screens =>
          cases screen
          rfl

section Nesting

open Reading

variable {options : Options} {registry : Registry}

mutual

/-- The lines of a draft lead to the block that it stands for. -/
theorem Draft.leads (draft : Draft) (number : Nat) (state : State) (idle : state.table = none)
    (outside : state.inWorkflow = false) (room : state.frames.length + draft.depth ≤ nestingLimit)
    (accepted : ∀ line ∈ draft.plainLines, Accepted options registry line) :
    Leads options registry number draft.lines state (state.accept draft.block) := by
  cases draft with
  | line content =>
      have passes := accepted content.text (by simp [Draft.plainLines])
      exact Leads.plainLine content idle outside passes
  | table header rows => exact Leads.table header rows idle outside
  | box head children =>
      simp only [Draft.depth] at room
      simp only [Draft.plainLines] at accepted
      have found : (if state.inWorkflow then Opener.ofWorkflowLine? head.opening
          else Opener.ofLine? head.opening) = some head.opener := by
        simpa [outside] using head.ofLine?_opening
      have opened : step options registry number head.opening state =
          (state.push (.box number head.box []), []) :=
        step_opening idle head.head?_opening found (head.openFrame?_opener options number)
          (by omega)
      have roomInside : (state.push (.box number head.box [])).frames.length +
          Draft.depthOf children ≤ nestingLimit := by
        simp only [State.push, List.length_cons]
        omega
      have inside := Draft.leadsOf children (number + 1) (state.push (.box number head.box []))
        idle rfl roomInside accepted
      rw [State.acceptAll_push_blocks (.box number head.box) fun _ _ => rfl] at inside
      apply Leads.enclosed idle opened inside head.closerOf_kind
      rw [State.put_of_not_inWorkflow outside]
      simp [Frame.close, Draft.block]
  | workflow initial screens =>
      simp only [Draft.depth] at room
      simp only [Draft.plainLines] at accepted
      let named := initial.map fun initial => initial.text
      have found : (if state.inWorkflow then Opener.ofWorkflowLine? (Draft.workflowOpening initial)
          else Opener.ofLine? (Draft.workflowOpening initial)) =
            some (.workflow (initial.elim [] Draft.initialSetting)) := by
        simpa [outside] using Draft.ofLine?_workflowOpening initial
      have openedFrame : openFrame? options number
          (.workflow (initial.elim [] Draft.initialSetting)) =
            some (.workflow number named [], []) := by
        rw [openFrame?, Draft.readInitial_initialSetting]
      have opened : step options registry number (Draft.workflowOpening initial) state =
          (state.push (.workflow number named []), []) :=
        step_opening idle rfl found openedFrame (by omega)
      have roomInside : (state.push (.workflow number named [])).frames.length +
          DraftScreen.depthOf screens ≤ nestingLimit := by
        simp only [State.push, List.length_cons]
        omega
      have inside := DraftScreen.leadsOf screens (number + 1)
        (state.push (.workflow number named [])) idle rfl roomInside accepted
      rw [State.acceptAll_push Block.screen (.workflow number named) fun _ _ => rfl] at inside
      apply Leads.enclosed idle opened inside rfl
      rw [State.put_of_not_inWorkflow outside, Draft.close_workflow]

/-- The lines of several drafts lead to their blocks. -/
theorem Draft.leadsOf (drafts : List Draft) (number : Nat) (state : State)
    (idle : state.table = none) (outside : state.inWorkflow = false)
    (room : state.frames.length + Draft.depthOf drafts ≤ nestingLimit)
    (accepted : ∀ line ∈ Draft.plainLinesOf drafts, Accepted options registry line) :
    Leads options registry number (Draft.linesOf drafts) state
      (state.acceptAll (Draft.blocksOf drafts)) := by
  cases drafts with
  | nil => exact Leads.nil
  | cons draft drafts =>
      simp only [Draft.depthOf] at room
      simp only [Draft.plainLinesOf] at accepted
      obtain ⟨firstAccepted, restAccepted⟩ := List.forall_mem_append.1 accepted
      have first := Draft.leads draft number state idle outside (by omega) firstAccepted
      have rest := Draft.leadsOf drafts (number + draft.lines.length) (state.accept draft.block)
        (by simpa using idle) (by simpa using outside)
        (by simp only [State.length_frames_accept]; omega) restAccepted
      exact first.append rest

/-- The lines of a screen lead to the screen, directly inside a workflow. -/
theorem DraftScreen.leads (screen : DraftScreen) (number : Nat) (state : State)
    (idle : state.table = none) (inWorkflow : state.inWorkflow = true)
    (room : state.frames.length + screen.depth ≤ nestingLimit)
    (accepted : ∀ line ∈ screen.plainLines, Accepted options registry line) :
    Leads options registry number screen.lines state (state.accept (.screen screen.screen)) := by
  cases screen with
  | mk id children =>
      simp only [DraftScreen.depth] at room
      simp only [DraftScreen.plainLines] at accepted
      have found : (if state.inWorkflow then Opener.ofWorkflowLine? (Draft.screenOpening id)
          else Opener.ofLine? (Draft.screenOpening id)) = some (.screen id.text) := by
        simpa [inWorkflow] using Draft.ofWorkflowLine?_screenOpening id
      have opened : step options registry number (Draft.screenOpening id) state =
          (state.push (.screen number id.text []), []) := by
        exact step_opening idle rfl found rfl (by omega)
      have roomInside : (state.push (.screen number id.text [])).frames.length +
          Draft.depthOf children ≤ nestingLimit := by
        simp only [State.push, List.length_cons]
        omega
      have inside := Draft.leadsOf children (number + 1) (state.push (.screen number id.text []))
        idle rfl roomInside accepted
      rw [State.acceptAll_push_blocks (.screen number id.text) fun _ _ => rfl] at inside
      apply Leads.enclosed idle opened inside rfl
      rw [Frame.close, List.reverse_reverse]
      exact State.put_screen inWorkflow _

/-- The lines of several screens lead to the screens. -/
theorem DraftScreen.leadsOf (screens : List DraftScreen) (number : Nat) (state : State)
    (idle : state.table = none) (inWorkflow : state.inWorkflow = true)
    (room : state.frames.length + DraftScreen.depthOf screens ≤ nestingLimit)
    (accepted : ∀ line ∈ DraftScreen.plainLinesOf screens, Accepted options registry line) :
    Leads options registry number (DraftScreen.linesOf screens) state
      (state.acceptAll ((DraftScreen.screensOf screens).map Block.screen)) := by
  cases screens with
  | nil => exact Leads.nil
  | cons screen screens =>
      simp only [DraftScreen.depthOf] at room
      simp only [DraftScreen.plainLinesOf] at accepted
      obtain ⟨firstAccepted, restAccepted⟩ := List.forall_mem_append.1 accepted
      have first := DraftScreen.leads screen number state idle inWorkflow (by omega) firstAccepted
      have rest := DraftScreen.leadsOf screens (number + screen.lines.length)
        (state.accept (.screen screen.screen)) (by simpa using idle) (by simpa using inWorkflow)
        (by simp only [State.length_frames_accept]; omega) restAccepted
      exact first.append rest

end

end Nesting

/-- A line as it may be written: with blanks around it that stay on the line, unless blanks are
preserved. -/
def Draft.Padded (options : Options) (written line : Text) : Prop :=
  ∃ before after, written = before ++ line ++ after ∧
    Text.allBlank before = true ∧ Text.allBlank after = true ∧ '\n' ∉ before ∧ '\n' ∉ after ∧
      (options.preserveWhitespace = true → before = [] ∧ after = [])

namespace Reading

variable {options : Options} {registry : Registry}

/-- Padding is gone when a line is read. -/
theorem prepare_padded {written line : Text} (settled : Draft.Settled line)
    (padded : Draft.Padded options written line) :
    prepare options ((Text.before? ['\r'] written).getD written) = line := by
  obtain ⟨before, after, rfl, blankBefore, blankAfter, _, _, kept⟩ := padded
  rw [prepare]
  split
  · rename_i preserved
    obtain ⟨rfl, rfl⟩ := kept preserved
    simpa using Text.dropReturn_of_trim settled.trimmed
  · rw [Text.trim_dropReturn, Text.trim_append_blank _ blankAfter,
      Text.trim_blank_append blankBefore, settled.trimmed]

theorem single_of_padded {written line : Text} (settled : Draft.Settled line)
    (padded : Draft.Padded options written line) : '\n' ∉ written := by
  obtain ⟨before, after, rfl, _, _, singleBefore, singleAfter, _⟩ := padded
  simp only [List.mem_append, not_or]
  exact ⟨⟨singleBefore, settled.single⟩, singleAfter⟩

/-- The lines that are read from a text are the lines that were padded. -/
theorem lines_joined {written lines : List Text} (nonempty : written ≠ [])
    (padded : List.Forall₂ (Draft.Padded options) written lines)
    (settled : ∀ line ∈ lines, Draft.Settled line) :
    (Reading.lines (Text.joined ['\n'] written)).map (prepare options) = lines := by
  have single : ∀ piece ∈ written, '\n' ∉ piece := by
    clear nonempty
    induction padded with
    | nil => simp
    | cons first _ ih =>
        obtain ⟨settledFirst, settledRest⟩ := List.forall_mem_cons.1 settled
        exact List.forall_mem_cons.2 ⟨single_of_padded settledFirst first, ih settledRest⟩
  rw [Reading.lines, Text.splitOn_joined nonempty single, List.map_map]
  clear nonempty single
  induction padded with
  | nil => rfl
  | cons first _ ih =>
      obtain ⟨settledFirst, settledRest⟩ := List.forall_mem_cons.1 settled
      rw [List.map_cons, ih settledRest]
      exact congrArg (· :: _) (prepare_padded settledFirst first)

/-- Where nothing is open, blocks go to the document. -/
theorem State.acceptAll_finished (blocks finished : List Block) :
    State.acceptAll blocks ⟨[], none, finished⟩ = ⟨[], none, blocks.reverse ++ finished⟩ := by
  induction blocks generalizing finished with
  | nil => rfl
  | cons block blocks ih =>
      have next := ih (block :: finished)
      rw [List.reverse_cons, List.append_assoc]
      exact next

/-- What is read is what is left when everything is closed behind the last line. -/
theorem read_eq_finish {text : Text} {lines : List Text} {state : State} {notes : List Note}
    (prepared : (Reading.lines text).map (prepare options) = lines)
    (stepped : steps options registry 1 lines .empty = (state, notes)) :
    Reading.read options registry text =
      ⟨(finish options state).1.finished.reverse, notes ++ (finish options state).2⟩ := by
  rw [Reading.read, prepared, run_eq_steps, stepped]

/-- A reading that leads from nothing to finished blocks gives these blocks. -/
theorem read_of_leads {text : Text} {blocks : List Block}
    (leads : Leads options registry 1 ((Reading.lines text).map (prepare options)) .empty
      (State.acceptAll blocks .empty)) :
    (Reading.read options registry text).blocks = blocks ∧
      ∀ note ∈ (Reading.read options registry text).notes, Note.Routine note := by
  obtain ⟨notes, stepped, quiet⟩ := leads
  rw [State.empty, State.acceptAll_finished, List.append_nil] at stepped
  have whole : Reading.read options registry text = ⟨blocks, notes⟩ := by
    rw [read_eq_finish rfl stepped]
    simp [finish, State.closeTable, closeFrames]
  rw [whole]
  exact ⟨rfl, quiet⟩

/-- Routine reports are no diagnostics. -/
theorem document_of_routine {reading : Reading}
    (quiet : ∀ note ∈ reading.notes, Note.Routine note) :
    reading.document = ⟨reading.blocks, none⟩ := by
  have none : reading.diagnostics = [] := by
    rw [Reading.diagnostics, List.filterMap_eq_nil_iff]
    intro note member
    cases note with
    | event event => rfl
    | diagnostic diagnostic => exact (quiet _ member).elim
  rw [Reading.document, none]

end Reading

/-- The lines of a draft lead from nothing to its blocks, however they are padded. -/
theorem Draft.leads_written {options : Options} {registry : Registry} {drafts : List Draft}
    {written : List Text} (shallow : Draft.depthOf drafts ≤ nestingLimit)
    (accepted : ∀ line ∈ Draft.plainLinesOf drafts, Reading.Accepted options registry line)
    (padded : List.Forall₂ (Draft.Padded options) written (Draft.linesOf drafts)) :
    Reading.Leads options registry 1
      ((Reading.lines (Text.joined ['\n'] written)).map (Reading.prepare options)) .empty
      (Reading.State.acceptAll (Draft.blocksOf drafts) .empty) := by
  have room : Reading.State.empty.frames.length + Draft.depthOf drafts ≤ nestingLimit := by
    simpa [Reading.State.empty] using shallow
  have leads := Draft.leadsOf drafts 1 .empty rfl rfl room accepted
  cases written with
  | nil =>
      have blank :
          (Reading.lines (Text.joined ['\n'] [])).map (Reading.prepare options) = [[]] := by
        cases options with
        | mk strict preserveWhitespace checks => cases preserveWhitespace <;> rfl
      have none : Draft.linesOf drafts = [] := by simpa using padded
      rw [none] at leads
      obtain ⟨notes, stepped, quiet⟩ := leads
      obtain ⟨same, -⟩ := Prod.mk.inj stepped
      rw [blank, ← same]
      have stays : Reading.step options registry 1 [] .empty = (.empty, []) :=
        (Reading.step_of_table_eq_none rfl).trans Reading.readLine_nil
      exact Reading.Leads.cons stays Reading.Leads.nil
  | cons first rest =>
      have settled : ∀ line ∈ Draft.linesOf drafts, Draft.Settled line :=
        fun _ member => Draft.settled_of_mem_linesOf drafts member
      rwa [Reading.lines_joined (by simp) padded settled]

/-- Nested documents are read back. Whatever blanks are put around its lines, the text of a draft
that does not nest too deeply is read as exactly the blocks that the draft stands for: every block
is closed by its own closing line, no line is refused and nothing is dropped. -/
theorem Draft.read_joined_lines (options : Options) (registry : Registry) (drafts : List Draft)
    (shallow : Draft.depthOf drafts ≤ nestingLimit)
    (accepted : ∀ line ∈ Draft.plainLinesOf drafts, Reading.Accepted options registry line)
    (written : List Text)
    (padded : List.Forall₂ (Draft.Padded options) written (Draft.linesOf drafts)) :
    (Reading.read options registry (Text.joined ['\n'] written)).document =
        ⟨Draft.blocksOf drafts, none⟩ ∧
      ∀ kind line, Event.unterminated kind line ∉
        (Reading.read options registry (Text.joined ['\n'] written)).events := by
  obtain ⟨blocks, quiet⟩ := Reading.read_of_leads (Draft.leads_written shallow accepted padded)
  constructor
  · rw [Reading.document_of_routine quiet, blocks]
  · intro kind line member
    obtain ⟨note, reported, shown⟩ := List.mem_filterMap.1 member
    cases note with
    | event event =>
        obtain rfl : event = .unterminated kind line := by simpa using shown
        exact quiet _ reported
    | diagnostic diagnostic => simp at shown

/-- A card with a line, a table and a workflow in it; the only screen holds an empty box. -/
def Draft.sample : List Draft :=
  [.box (.card (some ⟨"Home".toList, by decide, by decide, by decide⟩))
    [.line
      { text := "Hello".toList, trimmed := by decide, nonempty := by decide, single := by decide,
        opensNothing := by decide, closesNoBlock := by decide, closesNoCard := by decide },
      .table ⟨[⟨⟨"a".toList, by decide, by decide, by decide⟩, by decide⟩], by simp⟩
        [⟨[⟨⟨"-".toList, by decide, by decide, by decide⟩, by decide⟩], by simp⟩],
      .workflow none
        [⟨⟨"start".toList, by decide, by simp [Text.isBlank], by decide⟩,
          [.box (.div none) []]⟩]]]

/-- A strict reading of the sample, with blanks around all of its lines. -/
theorem Draft.read_joined_lines_sample :
    Draft.depthOf Draft.sample ≤ nestingLimit ∧
      (Reading.read { strict := true } .builtin (Text.joined ['\n']
        ((Draft.linesOf Draft.sample).map fun line => [' ', ' '] ++ line ++ ['\t']))).document =
          ⟨Draft.blocksOf Draft.sample, none⟩ := by
  have shallow : Draft.depthOf Draft.sample ≤ nestingLimit := by decide
  have accepted : ∀ line ∈ Draft.plainLinesOf Draft.sample,
      Reading.Accepted { strict := true } .builtin line := by
    have lines : Draft.plainLinesOf Draft.sample = ["Hello".toList] := rfl
    intro line member _ _
    rw [lines, List.mem_singleton] at member
    rw [member]
    decide
  refine ⟨shallow, (Draft.read_joined_lines _ _ Draft.sample shallow accepted _ ?_).1⟩
  rw [List.forall₂_map_left_iff, List.forall₂_same]
  intro line _
  exact ⟨[' ', ' '], ['\t'], rfl, by decide, by decide, by decide, by decide, by simp⟩

end Mockup
