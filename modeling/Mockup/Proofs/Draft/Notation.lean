import Mockup.Proofs.Directives
import Mockup.Proofs.Draft

/-!
# The lines of drafts

Three facts about the lines that a draft is written as: no line has blanks around it or runs into
the next one, a row gives its cells back, and an opening line is recognised as what it opens,
although all of them start with the same bracket.
-/

namespace Mockup

namespace Draft

/-- A line without blanks around it that stays a single line. -/
structure Settled (line : Text) : Prop where
  trimmed : Text.trim line = line
  single : '\n' ∉ line

theorem Caption.settled (caption : Caption) : Settled caption.text :=
  ⟨caption.trimmed, caption.single⟩

theorem ScreenName.settled (name : ScreenName) : Settled name.text := by
  constructor
  · apply Text.trim_eq_self_iff.2
    constructor
    · exact fun character first => name.visible character (List.mem_of_mem_head? first)
    · exact fun character last => name.visible character (List.mem_of_getLast? last)
  · intro held
    exact absurd (name.visible '\n' held) (by decide)

/-- A line is settled if its two ends are. -/
theorem Settled.around {lead middle tail : Text} (first : Settled lead) (leads : lead ≠ [])
    (single : '\n' ∉ middle) (last : Settled tail) (ends : tail ≠ []) :
    Settled (lead ++ middle ++ tail) := by
  constructor
  · apply Text.trim_eq_self_iff.2
    constructor
    · intro character start
      rw [List.append_assoc, List.head?_append_of_ne_nil _ leads] at start
      exact (Text.trim_eq_self_iff.1 first.trimmed).1 character start
    · intro character stop
      rw [List.getLast?_append_of_ne_nil _ ends] at stop
      exact (Text.trim_eq_self_iff.1 last.trimmed).2 character stop
  · simp only [List.mem_append, not_or]
    exact ⟨⟨first.single, single⟩, last.single⟩

/-- A keyword, a blank and a settled text. -/
theorem Settled.behind {lead tail : Text} (settled : Settled tail) (ends : tail ≠ [])
    (keyword : Settled lead) (leads : lead ≠ []) : Settled (lead ++ ' ' :: tail) := by
  have spaced := keyword.around leads (by decide : '\n' ∉ [' ']) settled ends
  rwa [List.append_assoc, List.singleton_append] at spaced

theorem settled_rowLine {cells : List Text} (nonempty : cells ≠ [])
    (settled : ∀ cell ∈ cells, Settled cell) : Settled (rowLine cells) := by
  constructor
  · apply Text.trim_eq_self_iff.2
    constructor
    · simp only [rowLine, List.head?_cons, Option.mem_def, Option.some.injEq]
      rintro character rfl
      decide
    · intro character last
      obtain ⟨front, cell, rfl⟩ := (List.eq_nil_or_concat' cells).resolve_left nonempty
      have shape :
          rowLine (front ++ [cell]) = (rowLine front ++ ' ' :: cell ++ [' ']) ++ ['|'] := by
        simp [rowLine]
      rw [shape, List.getLast?_concat] at last
      obtain rfl : '|' = character := by simpa using last
      decide
  · simp only [rowLine, List.mem_cons, List.mem_flatMap, List.mem_append, not_or, not_exists]
    refine ⟨by decide, ?_⟩
    rintro cell ⟨member, held⟩
    have free := (settled cell member).single
    simp_all

theorem BoxHead.settled_opening (head : BoxHead) : Settled head.opening := by
  cases head with
  | card title =>
      have keyword : Settled "[--".toList := ⟨by decide, by decide⟩
      cases title with
      | none => exact keyword
      | some title => exact title.settled.behind title.nonempty keyword (by decide)
  | grid config =>
      have keyword : Settled "[grid".toList := ⟨by decide, by decide⟩
      exact config.settled.behind config.nonempty keyword (by decide)
  | div className =>
      have keyword : Settled "[".toList := ⟨by decide, by decide⟩
      cases className with
      | none => exact keyword
      | some className => exact className.settled.behind className.nonempty keyword (by decide)

theorem settled_bracket : Settled "]".toList := ⟨by decide, by decide⟩

theorem BoxHead.settled_closing (head : BoxHead) : Settled head.closing := by
  cases head with
  | card =>
      have closer : Settled "--]".toList := ⟨by decide, by decide⟩
      exact closer
  | grid | div => exact settled_bracket

theorem settled_initialSetting (initial : InitialName) : Settled (initialSetting initial) := by
  have key : Settled "initial=".toList := ⟨by decide, by decide⟩
  have joint := key.around (by decide) (by simp : '\n' ∉ []) initial.settled initial.nonempty
  rwa [List.append_nil] at joint

theorem initialSetting_ne_nil (initial : InitialName) : initialSetting initial ≠ [] := by
  unfold initialSetting
  simp

theorem settled_workflowOpening (initial : Option InitialName) :
    Settled (workflowOpening initial) := by
  have keyword : Settled "[workflow".toList := ⟨by decide, by decide⟩
  cases initial with
  | none => exact keyword
  | some initial =>
      exact (settled_initialSetting initial).behind (initialSetting_ne_nil initial) keyword
        (by decide)

theorem settled_screenOpening (id : ScreenName) : Settled (screenOpening id) := by
  have keyword : Settled "[screen".toList := ⟨by decide, by decide⟩
  exact id.settled.behind id.nonempty keyword (by decide)

/-- What holds of all cells holds of all contents of a row. -/
theorem Row.forall_mem_texts (row : Row) {property : Text → Prop}
    (every : ∀ cell : Cell, property cell.text) : ∀ text ∈ row.texts, property text := by
  intro text member
  obtain ⟨cell, _, rfl⟩ := List.mem_map.1 member
  exact every cell

theorem Row.settled_rowLine_texts (row : Row) : Settled (rowLine row.texts) := by
  apply settled_rowLine
  · simpa [Row.texts] using row.nonempty
  · exact row.forall_mem_texts fun cell => cell.settled

end Draft

mutual

/-- Every line of a draft is settled. -/
theorem Draft.settled_of_mem_lines (draft : Draft) {line : Text} (member : line ∈ draft.lines) :
    Draft.Settled line := by
  cases draft with
  | line content =>
      obtain rfl : line = content.text := by simpa [Draft.lines] using member
      exact content.settled
  | table header rows =>
      simp only [Draft.lines, List.cons_append, List.mem_cons, List.mem_append, List.mem_map,
        List.not_mem_nil, or_false] at member
      obtain rfl | rfl | ⟨row, _, rfl⟩ | rfl := member
      · exact header.settled_rowLine_texts
      · exact ⟨by decide, by decide⟩
      · exact row.settled_rowLine_texts
      · exact ⟨by decide, by decide⟩
  | box head children =>
      simp only [Draft.lines, List.cons_append, List.mem_cons, List.mem_append,
        List.not_mem_nil, or_false] at member
      obtain rfl | inner | rfl := member
      · exact head.settled_opening
      · exact Draft.settled_of_mem_linesOf children inner
      · exact head.settled_closing
  | workflow initial screens =>
      simp only [Draft.lines, List.cons_append, List.mem_cons, List.mem_append,
        List.not_mem_nil, or_false] at member
      obtain rfl | inner | rfl := member
      · exact Draft.settled_workflowOpening initial
      · exact DraftScreen.settled_of_mem_linesOf screens inner
      · exact Draft.settled_bracket

theorem Draft.settled_of_mem_linesOf (drafts : List Draft) {line : Text}
    (member : line ∈ Draft.linesOf drafts) : Draft.Settled line := by
  cases drafts with
  | nil => simp [Draft.linesOf] at member
  | cons draft drafts =>
      rcases List.mem_append.1 (by simpa only [Draft.linesOf] using member) with first | later
      · exact Draft.settled_of_mem_lines draft first
      · exact Draft.settled_of_mem_linesOf drafts later

theorem DraftScreen.settled_of_mem_lines (screen : DraftScreen) {line : Text}
    (member : line ∈ screen.lines) : Draft.Settled line := by
  cases screen with
  | mk id children =>
      simp only [DraftScreen.lines, List.cons_append, List.mem_cons, List.mem_append,
        List.not_mem_nil, or_false] at member
      obtain rfl | inner | rfl := member
      · exact Draft.settled_screenOpening id
      · exact Draft.settled_of_mem_linesOf children inner
      · exact Draft.settled_bracket

theorem DraftScreen.settled_of_mem_linesOf (screens : List DraftScreen) {line : Text}
    (member : line ∈ DraftScreen.linesOf screens) : Draft.Settled line := by
  cases screens with
  | nil => simp [DraftScreen.linesOf] at member
  | cons screen screens =>
      rcases List.mem_append.1 (by simpa only [DraftScreen.linesOf] using member) with first | later
      · exact DraftScreen.settled_of_mem_lines screen first
      · exact DraftScreen.settled_of_mem_linesOf screens later

end

namespace Draft

/-- Cutting a row at its bars gives the cells with a blank on either side. -/
theorem splitOn_rowLine {cells : List Text} (free : ∀ cell ∈ cells, '|' ∉ cell) :
    Text.splitOn '|' (rowLine cells) =
      [] :: cells.map (fun cell => ' ' :: cell ++ [' ']) ++ [[]] := by
  have behind : ∀ cells : List Text, (∀ cell ∈ cells, '|' ∉ cell) →
      Text.splitOn '|' (cells.flatMap fun cell => ' ' :: cell ++ [' ', '|']) =
        cells.map (fun cell => ' ' :: cell ++ [' ']) ++ [[]] := by
    intro cells
    induction cells with
    | nil => exact fun _ => rfl
    | cons cell cells ih =>
        intro free
        have padded : '|' ∉ ' ' :: cell ++ [' '] := by simpa using free cell (by simp)
        have shape : ((cell :: cells).flatMap fun cell => ' ' :: cell ++ [' ', '|']) =
            (' ' :: cell ++ [' ']) ++
              '|' :: cells.flatMap fun cell => ' ' :: cell ++ [' ', '|'] := by
          simp
        rw [shape, Text.splitOn_append_cons, Text.splitOn_of_not_mem padded,
          ih fun other member => free other (by simp [member])]
        rfl
  rw [rowLine, Text.splitOn, if_pos rfl, behind cells free]
  rfl

/-- A row of cells is read back. -/
theorem cells_rowLine {cells : List Text} (settled : ∀ cell ∈ cells, Text.trim cell = cell)
    (nonempty : ∀ cell ∈ cells, cell ≠ []) (free : ∀ cell ∈ cells, '|' ∉ cell) :
    OpenTable.cells (rowLine cells) = cells := by
  have trimmed : ∀ cell ∈ cells, Text.trim (' ' :: cell ++ [' ']) = cell := by
    intro cell member
    rw [Text.trim_append_blank _ (by decide), Text.trim_blank_cons (by decide),
      settled cell member]
  have mapped : (cells.map fun cell => ' ' :: cell ++ [' ']).map Text.trim = cells := by
    rw [List.map_map]
    exact (List.map_congr_left trimmed).trans (List.map_id cells)
  rw [OpenTable.cells, Text.entries, splitOn_rowLine free, List.map_append, List.map_cons, mapped]
  simpa using nonempty

theorem Row.cells_rowLine_texts (row : Row) : OpenTable.cells (rowLine row.texts) = row.texts := by
  apply cells_rowLine
  · exact row.forall_mem_texts fun cell => cell.trimmed
  · exact row.forall_mem_texts fun cell => cell.nonempty
  · exact row.forall_mem_texts fun cell => cell.barFree

/-! ## Openers -/

/-- A row starts a table. -/
theorem Row.ofLine?_rowLine_texts (row : Row) :
    Opener.ofLine? (rowLine row.texts) = some .table := by
  have barred : '|' ∈ row.texts.flatMap fun cell => ' ' :: cell ++ [' ', '|'] := by
    obtain ⟨cell, cells, shape⟩ := List.exists_cons_of_ne_nil row.nonempty
    simp [Row.texts, shape]
  have found : Opener.table? (rowLine row.texts) = some .table := by
    rw [rowLine]
    exact if_pos (by simpa using barred)
  rw [Opener.ofLine?, List.findSome?_cons, found]

/-- What the opening line of a box is recognised as. -/
def BoxHead.opener : BoxHead → Opener
  | .card none => .card []
  | .card (some title) => .card title.text
  | .grid config => .grid config.text
  | .div none => .div []
  | .div (some className) => .div className.text

theorem isBlank_space : Text.isBlank ' ' = true := by decide

theorem Settled.trimStart_eq_self {text : Text} (settled : Settled text) :
    Text.trimStart text = text :=
  Text.trimStart_eq_self (Text.trim_eq_self_iff.1 settled.trimmed).1

theorem Settled.trimStart_blank_cons {text : Text} (settled : Settled text) :
    Text.trimStart (' ' :: text) = text := by
  rw [Text.trimStart, List.dropWhile_cons_of_pos isBlank_space]
  exact settled.trimStart_eq_self

theorem table?_bracket (rest : Text) : Opener.table? ('[' :: rest) = none := rfl

/-- The openers that are tried, in this order, on a line that starts no table. -/
theorem ofLine?_eq_or {line : Text} (noTable : Opener.table? line = none) :
    Opener.ofLine? line =
      ((Opener.card? line).or <| (Opener.grid? line).or <| (Opener.workflow? line).or <|
        Opener.div? line) := by
  rw [Opener.ofLine?]
  simp only [List.findSome?_cons, List.findSome?_nil, noTable]
  cases Opener.card? line <;> cases Opener.grid? line <;> cases Opener.workflow? line <;>
    cases Opener.div? line <;> rfl

theorem BoxHead.ofLine?_opening (head : BoxHead) :
    Opener.ofLine? head.opening = some head.opener := by
  cases head with
  | card title =>
      cases title with
      | none => decide
      | some title =>
          let line : Text := "[--".toList ++ ' ' :: title.text
          have noTable : Opener.table? line = none := table?_bracket _
          have card : Opener.card? line = some (.card title.text) := by
            rw [Opener.card?, Text.after?_append, Option.map_some,
              title.settled.trimStart_blank_cons]
          have found := ofLine?_eq_or noTable
          rw [card, Option.some_or] at found
          exact found
  | grid config =>
      let line : Text := "[grid".toList ++ ' ' :: config.text
      have noTable : Opener.table? line = none := table?_bracket _
      have noCard : Opener.card? line = none := rfl
      have grid : Opener.grid? line = some (.grid config.text) := by
        rw [Opener.grid?, Text.after?_append, Option.bind_some, Text.behindBlanks?,
          if_pos isBlank_space, config.settled.trimStart_eq_self]
      have found := ofLine?_eq_or noTable
      rw [noCard, grid, Option.none_or, Option.some_or] at found
      exact found
  | div className =>
      cases className with
      | none => decide
      | some className =>
          let line : Text := '[' :: ' ' :: className.text
          have noTable : Opener.table? line = none := table?_bracket _
          have noKeyword : Opener.card? line = none ∧ Opener.grid? line = none ∧
              Opener.workflow? line = none :=
            ⟨rfl, rfl, rfl⟩
          have trimmed : Text.trim (' ' :: className.text) = className.text :=
            (Text.trim_blank_cons isBlank_space className.text).trans className.trimmed
          have div : Opener.div? line = some (.div className.text) := by
            simp [Opener.div?, line, Text.after?, className.bracketFree, trimmed]
          have found := ofLine?_eq_or noTable
          rw [noKeyword.1, noKeyword.2.1, noKeyword.2.2, div] at found
          exact found

/-- The opening line of a box opens that box, with nothing in it yet. -/
theorem BoxHead.openFrame?_opener (head : BoxHead) (options : Options) (number : Nat) :
    Reading.openFrame? options number head.opener = some (.box number head.box [], []) := by
  cases head with
  | card title =>
      cases title with
      | none => rfl
      | some title => simp [opener, Reading.openFrame?, title.nonempty, box]
  | grid config => rfl
  | div className =>
      cases className with
      | none => rfl
      | some className => simp [opener, Reading.openFrame?, className.nonempty, box]

theorem BoxHead.closerOf_kind (head : BoxHead) : Frame.closerOf head.box.kind = head.closing := by
  cases head <;> rfl

theorem ofLine?_workflowOpening (initial : Option InitialName) :
    Opener.ofLine? (workflowOpening initial) =
      some (.workflow (initial.elim [] initialSetting)) := by
  have noTable : Opener.table? (workflowOpening initial) = none := rfl
  have noCard : Opener.card? (workflowOpening initial) = none := rfl
  have noGrid : Opener.grid? (workflowOpening initial) = none := rfl
  have found : Opener.workflow? (workflowOpening initial) =
      some (.workflow (initial.elim [] initialSetting)) := by
    unfold Opener.workflow? workflowOpening
    rw [Text.after?_append]
    cases initial with
    | none => rfl
    | some initial =>
        have free : ']' ∉ initialSetting initial := by
          unfold initialSetting
          simpa using initial.bracketFree
        have visible : Text.trimStart (initialSetting initial) = initialSetting initial :=
          (settled_initialSetting initial).trimStart_eq_self
        simp [free, Text.behindBlanks?, isBlank_space, visible]
  rw [ofLine?_eq_or noTable, noCard, noGrid, found]
  rfl

/-- The opening line of a workflow sets the initial screen that it names. -/
theorem readInitial_initialSetting (initial : Option InitialName) (options : Options)
    (number : Nat) :
    Reading.readInitial options number (initial.elim [] initialSetting) =
      (initial.map fun initial => initial.text, []) := by
  cases initial with
  | none => rfl
  | some initial =>
      have key : Directives.IsWord "initial".toList := by
        simp [Directives.IsWord, Text.isBlank]
      have value : Directives.IsWord initial.text := by
        intro character member
        refine ⟨?_, initial.visible character member⟩
        rintro rfl
        exact initial.equalsFree member
      have set := Directives.read_setting (by decide) key initial.nonempty value
      have shape : initialSetting initial = "initial".toList ++ '=' :: initial.text := by
        unfold initialSetting
        simp
      rw [Option.elim_some, shape, Reading.readInitial, set]
      rfl

theorem ofWorkflowLine?_screenOpening (id : ScreenName) :
    Opener.ofWorkflowLine? (screenOpening id) = some (.screen id.text) := by
  have plain : ∀ character ∈ id.text, (!Text.isBlank character && character ≠ ']') = true := by
    intro character member
    have differs : character ≠ ']' := by
      rintro rfl
      exact id.bracketFree member
    simp [id.visible character member, differs]
  have whole := List.takeWhile_eq_self_iff.2 plain
  have nothing := List.dropWhile_eq_nil_iff.2 plain
  have found : Opener.screen? (screenOpening id) = some (.screen id.text) := by
    unfold Opener.screen? screenOpening
    rw [Text.after?_append, Option.bind_some, Text.behindBlanks?, if_pos isBlank_space]
    simp only [id.settled.trimStart_eq_self, whole, nothing]
    simp [id.nonempty, Text.allBlank]
  rw [Opener.ofWorkflowLine?, found]
  rfl

end Draft

end Mockup
