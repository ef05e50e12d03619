import Mathlib.Data.List.Nodup
import Mockup.Proofs.Jsx.Vocabulary
import Mockup.Proofs.Text

/-!
# The imports of a component

A component imports the widgets that the kinds of its blocks are made of. The main statement
compares the lines in front of the component with the tags that are found in the text of its markup:
each name of a component is imported on one line, and no widget is imported without need.
-/

namespace Mockup

open Jsx (Node Known)

theorem Control.kind_ne_workflow (control : Control) : control.kind ≠ .workflow := by
  cases control <;> exact Kind.noConfusion

theorem Item.workflow_not_mem_kinds (item : Item) : Kind.workflow ∉ item.kinds := by
  cases item with
  | control inner => simpa [Item.kinds, Item.kind] using inner.kind_ne_workflow.symm
  | row controls =>
      have others : ∀ control ∈ controls, control.kind ≠ .workflow :=
        fun control _ => control.kind_ne_workflow
      simpa [Item.kinds] using others
  | header | text | radioGroup | image => simp [Item.kinds, Item.kind]

mutual

/-- A workflow is somewhere in a block if the block has an initial screen. -/
theorem Block.workflow_mem_kinds (block : Block) :
    Kind.workflow ∈ block.kinds ↔ block.initialScreens ≠ [] := by
  cases block with
  | item inner => simp [Block.kinds, Block.initialScreens, inner.workflow_not_mem_kinds]
  | table inner => simp [Block.kinds, Block.initialScreens]
  | box outer children =>
      have own : outer.kind ≠ .workflow := by cases outer <;> exact Kind.noConfusion
      simp [Block.kinds, Block.initialScreens, own.symm, Block.workflow_mem_kindsOf children]
  | screen inner => exact Screen.workflow_mem_kinds inner
  | workflow initial screens => simp [Block.kinds, Block.initialScreens]

theorem Block.workflow_mem_kindsOf (blocks : List Block) :
    Kind.workflow ∈ Block.kindsOf blocks ↔ Block.initialScreensOf blocks ≠ [] := by
  cases blocks with
  | nil => simp [Block.kindsOf, Block.initialScreensOf]
  | cons block blocks =>
      rw [Block.kindsOf, Block.initialScreensOf, List.mem_append, Block.workflow_mem_kinds block,
        Block.workflow_mem_kindsOf blocks]
      simp [or_iff_not_imp_left]

theorem Screen.workflow_mem_kinds (screen : Screen) :
    Kind.workflow ∈ screen.kinds ↔ screen.initialScreens ≠ [] := by
  obtain ⟨id, children⟩ := screen
  simp [Screen.kinds, Screen.initialScreens, Block.workflow_mem_kindsOf children]

end

namespace Component

/-- The lines in front of the first empty one. -/
def importLines (output : Text) : List Text :=
  (Text.splitOn '\n' output).takeWhile (· ≠ [])

/-- The names that a line imports: those between its braces. -/
def importedNames (line : Text) : List Text :=
  Text.entries ',' (((line.dropWhile (· ≠ '\x7b')).drop 1).takeWhile (· ≠ '\x7d'))

/-- The line that imports states. -/
def stateImport : Text :=
  "import \x7b useState \x7d from 'react';".toList

/-- The lines that may stand in front of a component, in their order. -/
def possibleImports : List Text :=
  stateImport :: Widget.all.map Widget.importLine

theorem nodup_possibleImports : possibleImports.Nodup := by
  decide

theorem possibleImports_filled : ∀ line ∈ possibleImports, line ≠ [] ∧ '\n' ∉ line := by
  decide

/-- The lines that are written in front of the first empty one can be read back. -/
theorem importLines_printModule {first rest : List Text}
    (filled : ∀ line ∈ first, line ≠ [] ∧ '\n' ∉ line) :
    importLines (printModule (first ++ [] :: rest)) = first := by
  induction first with
  | nil => simp [importLines, printModule, Text.splitOn]
  | cons line first ih =>
      obtain ⟨here, later⟩ := List.forall_mem_cons.1 filled
      have written : printModule (line :: first ++ [] :: rest) =
          line ++ '\n' :: printModule (first ++ [] :: rest) := by
        simp [printModule]
      rw [importLines, written, Text.splitOn_append_cons, Text.splitOn_of_not_mem here.2,
        List.singleton_append, List.takeWhile_cons_of_pos (by simpa using here.1), ← importLines,
        ih later]

/-- The lines in front of a component: the state, if there is a workflow, and the widgets. -/
def writtenImports (blocks : List Block) : List Text :=
  (if Block.initialScreensOf blocks = [] then [] else [stateImport]) ++ imports blocks

theorem writtenImports_sublist (blocks : List Block) :
    (writtenImports blocks).Sublist possibleImports := by
  have used : (imports blocks).Sublist (Widget.all.map Widget.importLine) :=
    List.filter_sublist.map _
  unfold writtenImports
  split
  · exact used.cons _
  · exact used.cons_cons _

theorem importLines_ofBlocks (blocks : List Block) :
    importLines (ofBlocks blocks) = writtenImports blocks := by
  have filled : ∀ line ∈ writtenImports blocks, line ≠ [] ∧ '\n' ∉ line :=
    fun line member => possibleImports_filled line ((writtenImports_sublist blocks).subset member)
  rw [ofBlocks, moduleLines, List.append_assoc, List.append_assoc, List.append_assoc,
    List.append_assoc]
  exact importLines_printModule filled

end Component

namespace Widget

theorem mem_all (widget : Widget) : widget ∈ all := by
  cases widget <;> decide

theorem mem_usedIn {widget : Widget} {blocks : List Block} :
    widget ∈ usedIn blocks ↔ ∃ kind ∈ Block.kindsOf blocks, widget ∈ ofKind kind := by
  simp [usedIn, widget.mem_all]

theorem importedNames_importLine (widget : Widget) :
    Component.importedNames widget.importLine = widget.exports := by
  cases widget <;> decide

/-- A name comes with one widget only. -/
theorem eq_of_mem_exports {first second : Widget} {name : Text} (left : name ∈ first.exports)
    (right : name ∈ second.exports) : first = second := by
  have distinct : ∀ first ∈ all, ∀ second ∈ all, ∀ name ∈ first.exports,
      name ∈ second.exports → first = second := by
    decide
  exact distinct first first.mem_all second second.mem_all name left right

theorem not_mem_stateImport {widget : Widget} {name : Text} (exported : name ∈ widget.exports) :
    name ∉ Component.importedNames Component.stateImport := by
  have others : ∀ widget ∈ all, ∀ name ∈ widget.exports,
      name ∉ Component.importedNames Component.stateImport := by
    decide
  exact others widget widget.mem_all name exported

/-- Of the lines that may stand in front of a component one imports a given name. -/
theorem eq_importLine_of_mem {widget : Widget} {name line : Text}
    (exported : name ∈ widget.exports) (possible : line ∈ Component.possibleImports)
    (imported : name ∈ Component.importedNames line) : line = widget.importLine := by
  rcases List.mem_cons.1 possible with rfl | other
  · exact absurd imported (not_mem_stateImport exported)
  · obtain ⟨found, -, rfl⟩ := List.mem_map.1 other
    rw [importedNames_importLine] at imported
    rw [eq_of_mem_exports imported exported]

theorem name_mem_exports (widget : Widget) : widget.name ∈ widget.exports := by
  cases widget <;> exact List.mem_cons_self

theorem importLine_ne_stateImport (widget : Widget) :
    widget.importLine ≠ Component.stateImport := by
  intro same
  apply not_mem_stateImport widget.name_mem_exports
  rw [← same, importedNames_importLine]
  exact widget.name_mem_exports

theorem importLine_mem_writtenImports {widget : Widget} {blocks : List Block} :
    widget.importLine ∈ Component.writtenImports blocks ↔ widget ∈ usedIn blocks := by
  constructor
  · intro member
    rcases List.mem_append.1 member with state | used
    · split at state
      · cases state
      · exact absurd (List.mem_singleton.1 state) widget.importLine_ne_stateImport
    · obtain ⟨other, found, same⟩ := List.mem_map.1 used
      have shared : widget.name ∈ other.exports := by
        rw [← importedNames_importLine, same, importedNames_importLine]
        exact widget.name_mem_exports
      rwa [eq_of_mem_exports widget.name_mem_exports shared]
  · intro used
    exact List.mem_append_right _ (List.mem_map_of_mem used)

end Widget

/-! ## Components -/

/-- A tag that stands for a component; those of native elements start with a small letter. -/
def Jsx.Tag.isComponent (tag : Jsx.Tag) : Bool :=
  !tag.name.head?.any Char.isLower

namespace Component

/-- The text of the markup of a list of blocks. -/
def markup (blocks : List Block) : Text :=
  printModule (Node.printAll 3 (body blocks))

theorem worded_body (blocks : List Block) :
    Node.AllWorded (Known (Block.kindsOf blocks)) (body blocks) := by
  unfold body
  refine Node.allWorded_iff.2 (Block.worded_listToJsx ?_ blocks (List.Subset.refl _))
  intro name found
  split at found
  · cases found
  · cases found
    exact (StateNames.isIdentifier_ofIndex 0).2

/-- The tags in the text of the markup are those of the tree. -/
theorem tagsOf_markup (blocks : List Block) :
    Jsx.tagsOf (markup blocks) = Node.allTags (body blocks) := by
  rw [Jsx.tagsOf, markup,
    Node.scan_printAll Jsx.isIdentifier_of_known _ (worded_body blocks) 3 []]

/-- The name of a component comes with a widget that is in use. -/
theorem exists_usedIn_of_isComponent {blocks : List Block} {tag : Jsx.Tag}
    (found : tag ∈ Jsx.tagsOf (markup blocks)) (component : tag.isComponent = true) :
    ∃ widget ∈ Widget.usedIn blocks, tag.name ∈ widget.exports := by
  have small : ∀ native ∈ Jsx.nativeTags, native.toList.head?.any Char.isLower = true := by
    decide
  rw [tagsOf_markup] at found
  rcases Node.AllWorded.named_of_mem _ (worded_body blocks) tag found with
    ⟨native, listed, spelled⟩ | ⟨kind, present, widget, used, exported⟩
  · rw [Jsx.Tag.isComponent, ← spelled, small native listed] at component
    cases component
  · exact ⟨widget, Widget.mem_usedIn.2 ⟨kind, present, used⟩, exported⟩

/-- A name that comes with a widget in use is imported on one line. -/
theorem countP_writtenImports {blocks : List Block} {widget : Widget} {name : Text}
    (used : widget ∈ Widget.usedIn blocks) (exported : name ∈ widget.exports) :
    (writtenImports blocks).countP (fun line => name ∈ importedNames line) = 1 := by
  have distinct := nodup_possibleImports.sublist (writtenImports_sublist blocks)
  have same : ∀ line ∈ writtenImports blocks,
      decide (name ∈ importedNames line) = true ↔ (line == widget.importLine) = true := by
    intro line member
    have possible := (writtenImports_sublist blocks).subset member
    rw [decide_eq_true_iff, beq_iff_eq]
    constructor
    · exact Widget.eq_importLine_of_mem exported possible
    · rintro rfl
      rw [Widget.importedNames_importLine]
      exact exported
  rw [List.countP_congr same]
  exact List.count_eq_one_of_mem distinct (Widget.importLine_mem_writtenImports.2 used)

/-- A widget in use has its tag in the markup. -/
theorem isShown_of_mem_usedIn {blocks : List Block} {widget : Widget}
    (used : widget ∈ Widget.usedIn blocks) :
    ∃ next ∈ [' ', '>'], Jsx.Tag.opening widget.name next ∈ Jsx.tagsOf (markup blocks) := by
  obtain ⟨kind, present, listed⟩ := Widget.mem_usedIn.1 used
  have shown : kind.isShown (Node.allTags (body blocks)) = true :=
    Block.isShown_listToJsx blocks kind present
  obtain ⟨tag, found, same⟩ := List.any_eq_true.1 (List.all_eq_true.1 shown widget listed)
  rw [tagsOf_markup]
  rcases Bool.or_eq_true_iff.1 same with blank | bracket
  · exact ⟨' ', by decide, of_decide_eq_true blank ▸ found⟩
  · exact ⟨'>', by decide, of_decide_eq_true bracket ▸ found⟩

theorem stateImport_mem_writtenImports (blocks : List Block) :
    stateImport ∈ writtenImports blocks ↔ Kind.workflow ∈ Block.kindsOf blocks := by
  have others : stateImport ∉ imports blocks := by
    intro member
    obtain ⟨widget, -, same⟩ := List.mem_map.1 member
    exact widget.importLine_ne_stateImport same
  rw [writtenImports, List.mem_append, or_iff_left others, Block.workflow_mem_kindsOf]
  split <;> simp [*]

/-- Whatever blocks a component is made of, its imports match the tags in its markup. Each tag of a
component is imported on exactly one line. A widget is imported only if its own tag is there. The
lines are in their order and stand once each, and the states are imported if there is a workflow at
any depth. -/
theorem ofBlocks_imports (blocks : List Block) :
    let lines := importLines (ofBlocks blocks)
    let tags := Jsx.tagsOf (markup blocks)
    (∃ front, ofBlocks blocks = front ++ opening ++ markup blocks ++ closing) ∧
      (∀ tag ∈ tags, tag.isComponent = true →
        lines.countP (fun line => tag.name ∈ importedNames line) = 1) ∧
      (∀ widget : Widget, widget.importLine ∈ lines →
        ∃ next ∈ [' ', '>'], Jsx.Tag.opening widget.name next ∈ tags) ∧
      lines.Nodup ∧
      lines.Sublist (stateImport :: Widget.all.map Widget.importLine) ∧
      (stateImport ∈ lines ↔ Kind.workflow ∈ Block.kindsOf blocks) := by
  intro lines tags
  have written : lines = writtenImports blocks := importLines_ofBlocks blocks
  rw [written]
  refine ⟨printModule_moduleLines _ _ _, ?_, ?_, ?_, writtenImports_sublist blocks,
    stateImport_mem_writtenImports blocks⟩
  · intro tag found component
    obtain ⟨widget, used, exported⟩ := exists_usedIn_of_isComponent found component
    exact countP_writtenImports used exported
  · intro widget imported
    exact isShown_of_mem_usedIn (Widget.importLine_mem_writtenImports.1 imported)
  · exact nodup_possibleImports.sublist (writtenImports_sublist blocks)

end Component

end Mockup
