import Mockup.Proofs.Buttons
import Mockup.Proofs.Draft.RoundTrip
import Mockup.Proofs.Reading.Items

/-!
# A bracket pair as a document

Boxes and buttons start with the same bracket, and what a line opens is looked for before it is read
as an item. A plain box and a workflow are not opened by a line on which the bracket is closed
again, but a card and a grid are: their title and their configuration may hold brackets. So a line
that is a button on its own is a document with this button, unless it starts like a card or a grid;
then it opens that box, and its closing bracket is the end of the title or of the configuration.
-/

namespace Mockup

open Button (Enclosable bracketed)

variable {group : Text}

namespace Opener

/-- A bracket pair that starts like a card or like a grid. -/
def StartsBox (group : Text) : Prop :=
  "--".toList <+: group ∨
    "grid".toList <+: group ∧ (group.drop 4).head?.any Text.isBlank = true

instance (group : Text) : Decidable (StartsBox group) :=
  inferInstanceAs (Decidable (_ ∨ _))

theorem head?_bracket {lead : Text} (plain : ']' ∉ lead) :
    ∀ character ∈ [']'].head?, character ∉ lead := by
  rintro character ⟨⟩
  exact plain

theorem card?_bracketed (group : Text) :
    card? (bracketed group) = (Text.after? "--".toList group).map fun title =>
      .card (Text.trimStart (title ++ [']'])) := by
  have led : Text.after? "[--".toList (bracketed group) =
      (Text.after? "--".toList group).map (· ++ [']']) :=
    Text.after?_append_of_not_mem (head?_bracket (by decide))
  rw [card?, led, Option.map_map]
  rfl

theorem grid?_bracketed (group : Text) :
    grid? (bracketed group) = (Text.after? "grid".toList group).bind fun rest =>
      Text.behindBlanks? (fun config => some (.grid config)) (rest ++ [']']) := by
  have led : Text.after? "[grid".toList (bracketed group) =
      (Text.after? "grid".toList group).map (· ++ [']']) :=
    Text.after?_append_of_not_mem (head?_bracket (by decide))
  rw [grid?, led, Option.bind_map]
  rfl

/-- A workflow is not opened where a bracket is closed. -/
theorem workflow?_bracketed (group : Text) : workflow? (bracketed group) = none := by
  have led : Text.after? "[workflow".toList (bracketed group) =
      (Text.after? "workflow".toList group).map (· ++ [']']) :=
    Text.after?_append_of_not_mem (head?_bracket (by decide))
  rw [workflow?, led]
  cases Text.after? "workflow".toList group with
  | none => rfl
  | some rest => cases rest <;> simp

theorem div?_bracketed (group : Text) : div? (bracketed group) = none := by
  simp [div?, bracketed, Text.after?]

theorem ofLine?_bracketed (group : Text) :
    ofLine? (bracketed group) = (card? (bracketed group)).or (grid? (bracketed group)) := by
  have noTable : table? (bracketed group) = none := Draft.table?_bracket _
  rw [Draft.ofLine?_eq_or noTable, workflow?_bracketed, div?_bracketed, Option.or_none,
    Option.or_none]

theorem ofLine?_bracketed_card (title : Text) :
    ofLine? (bracketed ("--".toList ++ title)) =
      some (.card (Text.trimStart (title ++ [']']))) := by
  rw [ofLine?_bracketed, card?_bracketed, Text.after?_append]
  rfl

theorem ofLine?_bracketed_grid {blank : Char} (hidden : Text.isBlank blank = true)
    (config : Text) :
    ofLine? (bracketed ("grid".toList ++ blank :: config)) =
      some (.grid (Text.trimStart (config ++ [']']))) := by
  have noCard : card? (bracketed ("grid".toList ++ blank :: config)) = none := rfl
  rw [ofLine?_bracketed, noCard, grid?_bracketed, Text.after?_append, Option.none_or,
    Option.bind_some, List.cons_append, Text.behindBlanks?, if_pos hidden]

/-- A bracket pair that starts like no box opens nothing. -/
theorem ofLine?_bracketed_eq_none (plain : ¬StartsBox group) :
    ofLine? (bracketed group) = none := by
  obtain ⟨noCard, noGrid⟩ := not_or.1 plain
  rw [ofLine?_bracketed, card?_bracketed, grid?_bracketed]
  cases carded : Text.after? "--".toList group with
  | some title => exact absurd (Text.prefix_of_after? carded) noCard
  | none =>
      cases gridded : Text.after? "grid".toList group with
      | none => rfl
      | some rest =>
          obtain rfl := Text.after?_eq_some_iff.1 gridded
          cases rest with
          | nil => rfl
          | cons first rest =>
              have visible : ¬Text.isBlank first = true := fun hidden =>
                noGrid ⟨Text.prefix_of_after? gridded, hidden⟩
              rw [Option.bind_some, List.cons_append, Text.behindBlanks?, if_neg visible]
              rfl

end Opener

/-! ## Documents of one line -/

namespace Reading

variable {options : Options} {registry : Registry} {line : Text}

/-- A settled line is the only line of the text that it is. -/
theorem lines_settled (settled : Draft.Settled line) :
    (Reading.lines line).map (prepare options) = [line] := by
  rw [Reading.lines, Text.splitOn_of_not_mem settled.single, List.map_singleton,
    Text.dropReturn_of_trim settled.trimmed, List.map_singleton, prepare, settled.trimmed, ite_self]

/-- A line that opens a block is the document with this block, and there is nothing in it. -/
theorem document_of_opening {opener : Opener} {frame : Frame} (settled : Draft.Settled line)
    (bracket : line.head? = some '[') (found : Opener.ofLine? line = some opener)
    (opened : openFrame? options 1 opener = some (frame, [])) :
    (Reading.read options registry line).document = ⟨[frame.close], none⟩ := by
  have idle : State.empty.table = none := rfl
  have pushed : step options registry 1 line .empty = (State.empty.push frame, []) :=
    step_opening idle bracket found opened (by decide)
  have stepped : steps options registry 1 [line] .empty = (State.empty.push frame, []) := by
    rw [steps, pushed]
    rfl
  have finished : finish options (State.empty.push frame) =
      (⟨[], none, [frame.close]⟩, [.event (.unterminated frame.kind frame.line)]) := rfl
  rw [read_eq_finish (lines_settled settled) stepped, finished]
  rfl

/-- A line that opens nothing and that some rule reads is the document with this item. -/
theorem document_of_item (settled : Draft.Settled line) (bracket : line.head? = some '[')
    (opensNothing : Opener.ofLine? line = none) (ruled : (Item.ofLine line).1 ≠ .text) :
    (Reading.read options registry line).document =
      ⟨[.item (Item.ofLine line).2], none⟩ := by
  obtain ⟨-, notBlock, notCard⟩ := bracket_cases bracket
  have nonempty : line ≠ [] := by
    rintro rfl
    cases bracket
  let content : Draft.PlainLine :=
    { text := line, trimmed := settled.trimmed, nonempty := nonempty, single := settled.single,
      opensNothing := opensNothing, closesNoBlock := notBlock, closesNoCard := notCard }
  have accepted : Accepted options registry content.text := fun _ text => absurd text ruled
  have only : (Reading.lines line).map (prepare options) = [line] := lines_settled settled
  have leads : Leads options registry 1 [content.text] .empty
      (State.acceptAll [.item (Item.ofLine line).2] .empty) :=
    Leads.plainLine content rfl rfl accepted
  rw [← only] at leads
  obtain ⟨blocks, quiet⟩ := read_of_leads leads
  rw [document_of_routine quiet, blocks]

theorem settled_bracketed (enclosable : Enclosable group) : Draft.Settled (bracketed group) := by
  have opening : Draft.Settled ['['] := ⟨by decide, by decide⟩
  exact opening.around (by decide) enclosable.single Draft.settled_bracket (by decide)

/-- A bracket pair that is a button when it is read as an item is the document with this button and
nothing else, unless it starts like a card or a grid. In that case it opens this box, which stays
empty; the closing bracket is the end of its title or of its configuration. -/
theorem document_bracketed (options : Options) (registry : Registry) {rule : Rule}
    {button : Button} (enclosable : Enclosable group)
    (alone : Item.classify (bracketed group) = .ok (rule, .control (.button button))) :
    (¬Opener.StartsBox group →
        (Reading.read options registry (bracketed group)).document =
          ⟨[.item (.control (.button button))], none⟩) ∧
      (∀ title, group = "--".toList ++ title →
        (Reading.read options registry (bracketed group)).document =
          ⟨[.box (.card (some (Inline.read (Text.trimStart (title ++ [']']))))) []], none⟩) ∧
      ∀ blank config, Text.isBlank blank = true → group = "grid".toList ++ blank :: config →
        (Reading.read options registry (bracketed group)).document =
          ⟨[.box (.grid (Text.trimStart (config ++ [']']))) []], none⟩ := by
  have settled := settled_bracketed enclosable
  refine ⟨fun plain => ?_, ?_, ?_⟩
  · have decided : Item.ofLine (bracketed group) = (rule, .control (.button button)) := by
      have read := Item.classify_ofLine (Text.oneLine_iff.2 settled.single)
      rw [alone] at read
      exact (Except.ok.inj read).symm
    have ruled : (Item.ofLine (bracketed group)).1 ≠ .text := by
      intro text
      have made := Item.ofLine_of_rule_eq_text text
      rw [decided] at made
      cases made
    rw [document_of_item settled rfl (Opener.ofLine?_bracketed_eq_none plain) ruled, decided]
  · rintro title rfl
    have titled : Text.trimStart (title ++ [']']) ≠ [] := by
      simp [Text.trimStart_eq_nil_iff, Text.allBlank, Text.isBlank]
    have opened : openFrame? options 1 (.card (Text.trimStart (title ++ [']']))) =
        some (.box 1 (.card (some (Inline.read (Text.trimStart (title ++ [']']))))) [], []) := by
      rw [openFrame?, if_neg titled]
    exact document_of_opening settled rfl (Opener.ofLine?_bracketed_card title) opened
  · rintro blank config hidden rfl
    exact document_of_opening settled rfl (Opener.ofLine?_bracketed_grid hidden config) rfl

/-- An outlined button without classes and without a screen. -/
def plainButton (content : Text) : Button :=
  ⟨content, .outline, none, none⟩

/-- A word that only begins like the one for grids is the label of a button; behind two hyphens it
is the title of a card, and behind the word and a blank the configuration of a grid. -/
theorem document_bracketed_grids :
    (¬Opener.StartsBox "grids".toList ∧
      Item.classify (bracketed "grids".toList) =
        .ok (.outlineButton, .control (.button (plainButton "grids".toList))) ∧
      (Reading.read {} .builtin "[grids]".toList).document =
        ⟨[.item (.control (.button (plainButton "grids".toList)))], none⟩) ∧
    (Item.classify (bracketed "--grids".toList) =
        .ok (.outlineButton, .control (.button (plainButton "--grids".toList))) ∧
      (Reading.read {} .builtin "[--grids]".toList).document =
        ⟨[.box (.card (some (Inline.read "grids]".toList))) []], none⟩) ∧
    (Item.classify (bracketed "grid s".toList) =
        .ok (.outlineButton, .control (.button (plainButton "grid s".toList))) ∧
      (Reading.read {} .builtin "[grid s]".toList).document =
        ⟨[.box (.grid "s]".toList) []], none⟩) := by
  have plain : ¬Opener.StartsBox "grids".toList := by decide
  have word : Enclosable "grids".toList := ⟨by decide, by decide, by decide, by decide⟩
  have title : Enclosable "--grids".toList := ⟨by decide, by decide, by decide, by decide⟩
  have config : Enclosable "grid s".toList := ⟨by decide, by decide, by decide, by decide⟩
  have wordAlone : Item.classify (bracketed "grids".toList) =
      .ok (.outlineButton, .control (.button (plainButton "grids".toList))) := by
    rw [Item.classify_of_bracket (by decide) rfl]
    rfl
  have titleAlone : Item.classify (bracketed "--grids".toList) =
      .ok (.outlineButton, .control (.button (plainButton "--grids".toList))) := by
    rw [Item.classify_of_bracket (by decide) rfl]
    rfl
  have configAlone : Item.classify (bracketed "grid s".toList) =
      .ok (.outlineButton, .control (.button (plainButton "grid s".toList))) := by
    rw [Item.classify_of_bracket (by decide) rfl]
    rfl
  refine ⟨⟨plain, wordAlone, ?_⟩, ⟨titleAlone, ?_⟩, ⟨configAlone, ?_⟩⟩
  · exact (document_bracketed {} .builtin word wordAlone).1 plain
  · exact (document_bracketed {} .builtin title titleAlone).2.1 "grids".toList rfl
  · exact (document_bracketed {} .builtin config configAlone).2.2 ' ' "s".toList rfl rfl

/-- A button that is labelled like a grid opens one. -/
theorem document_bracketed_grid :
    ¬∀ (group : Text) (rule : Rule) (button : Button), Enclosable group →
      Item.classify (bracketed group) = .ok (rule, .control (.button button)) →
      (Reading.read {} .builtin (bracketed group)).document =
        ⟨[.item (.control (.button button))], none⟩ := by
  intro alike
  have label : Enclosable "grid view".toList := ⟨by decide, by decide, by decide, by decide⟩
  have alone : Item.classify (bracketed "grid view".toList) =
      .ok (.outlineButton, .control (.button (plainButton "grid view".toList))) := by
    rw [Item.classify_of_bracket (by decide) rfl]
    rfl
  have opened : (Reading.read {} .builtin (bracketed "grid view".toList)).document =
      ⟨[.box (.grid "view]".toList) []], none⟩ :=
    rfl
  cases opened.symm.trans (alike _ _ _ label alone)

end Reading

end Mockup
