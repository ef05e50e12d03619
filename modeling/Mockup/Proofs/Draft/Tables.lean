import Mockup.Proofs.Draft.RoundTrip

/-!
# Tables without a separator

The line between the header of a table and its rows may be left out. The line behind the header is
then the first row, and it is told from a separator by a single character: a line with a hyphen
anywhere in it is skipped. So such a table keeps all of its rows exactly if no cell of the first one
holds a hyphen, and otherwise it loses that row and no other.
-/

namespace Mockup

namespace Draft

/-- A cell of the row holds a hyphen. -/
def Row.Hyphenated (row : Row) : Prop :=
  ∃ cell ∈ row.texts, '-' ∈ cell

instance (row : Row) : Decidable row.Hyphenated :=
  inferInstanceAs (Decidable (∃ cell ∈ row.texts, '-' ∈ cell))

/-- The lines of a table that has no separator. -/
def bareTable (header : Row) (rows : List Row) : List Text :=
  (header :: rows).map fun row => rowLine row.texts

/-- Besides its cells, a row is written with bars and blanks only. -/
theorem Row.hyphen_mem_rowLine_texts (row : Row) : '-' ∈ rowLine row.texts ↔ row.Hyphenated := by
  simp [rowLine, Hyphenated]

theorem settled_of_mem_bareTable {header : Row} {rows : List Row} :
    ∀ line ∈ bareTable header rows, Settled line := by
  intro line member
  obtain ⟨row, -, rfl⟩ := List.mem_map.1 member
  exact row.settled_rowLine_texts

end Draft

namespace Reading

variable {options : Options} {registry : Registry} {number : Nat} {state : State}

/-- The open table behind its first row: a row with a hyphen leaves nothing in it. -/
theorem add?_first (line : Nat) (headers : List Text) (first : Draft.Row) :
    OpenTable.add? ⟨line, headers, [], true⟩ (Draft.rowLine first.texts) =
      some ⟨line, headers, if first.Hyphenated then [] else [first.texts], false⟩ := by
  have bar := bar_mem_rowLine first.texts
  by_cases hyphenated : first.Hyphenated
  · have hyphen := first.hyphen_mem_rowLine_texts.2 hyphenated
    simp [OpenTable.add?, bar, hyphen, hyphenated]
  · have plain := mt first.hyphen_mem_rowLine_texts.1 hyphenated
    simp [OpenTable.add?, bar, plain, hyphenated, first.cells_rowLine_texts]

/-- The rows that are read of a table without a separator. -/
def keptRows (first : Draft.Row) (rest : List Draft.Row) : List (List Text) :=
  (if first.Hyphenated then rest else first :: rest).map Draft.Row.texts

/-- The lines of a table without a separator open it and fill it with the rows that are kept. -/
theorem Leads.bareTable (header first : Draft.Row) (rest : List Draft.Row)
    (idle : state.table = none) (outside : state.inWorkflow = false) :
    Leads options registry number (Draft.bareTable header (first :: rest)) state
      { state with
        table := some ⟨number, header.texts, (keptRows first rest).reverse, false⟩ } := by
  have kept : (keptRows first rest).reverse = (rest.map Draft.Row.texts).reverse ++
      (if first.Hyphenated then [] else [first.texts]) := by
    unfold keptRows
    split <;> simp
  rw [kept]
  exact Leads.cons (step_header header idle outside)
    (Leads.cons (step_of_add? rfl (add?_first number header.texts first))
      (Leads.addedRows rest number header.texts _))

/-- A document that ends in an open table, with nothing else in it, is that table. -/
theorem document_of_table {text : Text} {table : OpenTable}
    (leads : Leads options registry 1 ((Reading.lines text).map (prepare options)) .empty
      { State.empty with table := some table }) :
    (Reading.read options registry text).document = ⟨[table.close], none⟩ := by
  obtain ⟨notes, stepped, quiet⟩ := leads
  have whole : Reading.read options registry text = ⟨[table.close], notes⟩ := by
    rw [read_eq_finish rfl stepped]
    simp [finish, State.closeTable, State.put, State.empty, closeFrames]
  rw [whole]
  exact document_of_routine quiet

/-- Lines that need no padding are read as they are. -/
theorem lines_joined_settled {lines : List Text} (nonempty : lines ≠ [])
    (settled : ∀ line ∈ lines, Draft.Settled line) :
    (Reading.lines (Text.joined ['\n'] lines)).map (prepare options) = lines := by
  have unpadded : ∀ line ∈ lines, Draft.Padded options line line := fun line _ =>
    ⟨[], [], (List.append_nil line).symm, rfl, rfl, List.not_mem_nil, List.not_mem_nil,
      fun _ => ⟨rfl, rfl⟩⟩
  exact lines_joined nonempty (List.forall₂_same.2 unpadded) settled

/-- A table without a separator is read as one table with its header. All of its rows are in it if
no cell of the first row holds a hyphen, and all but the first one otherwise. -/
theorem read_bareTable (options : Options) (registry : Registry) (header first : Draft.Row)
    (rest : List Draft.Row) :
    (Reading.read options registry
        (Text.joined ['\n'] (Draft.bareTable header (first :: rest)))).document =
      ⟨[.table ⟨header.texts,
        (if first.Hyphenated then rest else first :: rest).map Draft.Row.texts⟩], none⟩ := by
  let lines := Draft.bareTable header (first :: rest)
  have prepared : (Reading.lines (Text.joined ['\n'] lines)).map (prepare options) = lines :=
    lines_joined_settled (List.cons_ne_nil _ _) Draft.settled_of_mem_bareTable
  have leads : Leads options registry 1 lines .empty
      { State.empty with table := some ⟨1, header.texts, (keptRows first rest).reverse, false⟩ } :=
    Leads.bareTable header first rest rfl rfl
  rw [← prepared] at leads
  rw [document_of_table leads, OpenTable.close, List.reverse_reverse, keptRows]

/-- A row of letters, digits and a hyphen is lost behind the header. -/
theorem read_bareTable_hyphen :
    ¬∀ (header first : Draft.Row) (rest : List Draft.Row),
      (∃ cell ∈ first.texts, ∃ character ∈ cell,
        character ≠ '-' ∧ character ≠ ':' ∧ Text.isBlank character = false) →
      (Reading.read {} .builtin
          (Text.joined ['\n'] (Draft.bareTable header (first :: rest)))).document =
        ⟨[.table ⟨header.texts, (first :: rest).map Draft.Row.texts⟩], none⟩ := by
  intro kept
  let header : Draft.Row := ⟨[⟨⟨"h".toList, by decide, by decide, by decide⟩, by decide⟩], by simp⟩
  let first : Draft.Row := ⟨[⟨⟨"A-1".toList, by decide, by decide, by decide⟩, by decide⟩], by simp⟩
  have visible : ∃ cell ∈ first.texts, ∃ character ∈ cell,
      character ≠ '-' ∧ character ≠ ':' ∧ Text.isBlank character = false :=
    ⟨"A-1".toList, List.mem_cons_self, 'A', by decide, by decide, by decide, by decide⟩
  have lost : (Reading.read {} .builtin "| h |\n| A-1 |".toList).document =
      ⟨[.table ⟨["h".toList], []⟩], none⟩ :=
    rfl
  have same := kept header first [] visible
  cases lost.symm.trans same

end Reading

end Mockup
