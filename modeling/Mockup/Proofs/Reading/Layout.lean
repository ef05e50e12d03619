import Mockup.Proofs.Reading.Closing

/-!
# Layout

Unless blanks are preserved, the layout of a text does not matter: blanks around lines are trimmed,
and blank lines are skipped. Blank lines matter in one place only, where they end a table, and there
a line without a bar does the same. A blank line is therefore put in, or taken out, wherever such a
line or the end of the text follows; all that changes is the numbers of the lines below.
-/

namespace Mockup

namespace Layout

/-- The number of a line after a line has been put in below the first `count` lines. -/
def lowered (count number : Nat) : Nat :=
  if number ≤ count then number else number + 1

/-- The number of a line after the line below the first `count` lines has been taken out. -/
def raised (count number : Nat) : Nat :=
  if number ≤ count then number else number - 1

theorem raised_lowered (count number : Nat) : raised count (lowered count number) = number := by
  rw [lowered]
  split
  · rename_i above
    rw [raised, if_pos above]
  · rename_i below
    rw [raised, if_neg (by omega), Nat.add_sub_cancel]

/-- A single change to the layout of some lines, and what becomes of their numbers. -/
inductive Edit : (renumber : Nat → Nat) → (before after : List Text) → Prop where
  /-- Blanks are put around a line. -/
  | pad (front back : List Text) (line left right : Text) (blankLeft : Text.allBlank left = true)
      (blankRight : Text.allBlank right = true) :
      Edit id (front ++ line :: back) (front ++ (left ++ line ++ right) :: back)
  /-- Blanks around a line are taken away. -/
  | strip (front back : List Text) (line left right : Text) (blankLeft : Text.allBlank left = true)
      (blankRight : Text.allBlank right = true) :
      Edit id (front ++ (left ++ line ++ right) :: back) (front ++ line :: back)
  /-- A blank line is put in at the end or in front of a line without a bar. -/
  | insert (front back : List Text) (line : Text) (blank : Text.allBlank line = true)
      (free : ∀ next ∈ back.head?, '|' ∉ next) :
      Edit (lowered front.length) (front ++ back) (front ++ line :: back)
  /-- A blank line is taken out at the end or in front of a line without a bar. -/
  | delete (front back : List Text) (line : Text) (blank : Text.allBlank line = true)
      (free : ∀ next ∈ back.head?, '|' ∉ next) :
      Edit (raised front.length) (front ++ line :: back) (front ++ back)

/-- Any number of changes to the layout of a text, and what becomes of the numbers of its lines. -/
inductive Edits : (renumber : Nat → Nat) → (before after : Text) → Prop where
  | refl (text : Text) : Edits id text text
  | tail {renumber next : Nat → Nat} {first second third : Text}
      (earlier : Edits renumber first second)
      (last : Edit next (Text.splitOn '\n' second) (Text.splitOn '\n' third)) :
      Edits (next ∘ renumber) first third

end Layout

namespace Diagnostic

theorem renumbered_id (diagnostic : Diagnostic) : diagnostic.renumbered id = diagnostic := by
  cases diagnostic <;> rfl

theorem renumbered_renumbered (first second : Nat → Nat) (diagnostic : Diagnostic) :
    (diagnostic.renumbered first).renumbered second = diagnostic.renumbered (second ∘ first) := by
  cases diagnostic <;> rfl

end Diagnostic

namespace Reading

open Layout (lowered raised raised_lowered Edit Edits)

variable {options : Options} {registry : Registry}

/-- A blank line does nothing in front of the end or of a line without a bar: it closes a table, and
so would they. -/
theorem runNumbered_insert {front back : List (Text × Nat)} {number : Nat} {state : State}
    (free : ∀ entry ∈ back.head?, '|' ∉ entry.1) :
    runNumbered options registry (front ++ ([], number) :: back) state =
      runNumbered options registry (front ++ back) state := by
  induction front generalizing state with
  | nil =>
      rw [List.nil_append, List.nil_append, runNumbered_of_head_not_mem free, runNumbered, step_nil]
  | cons entry front ih => simp only [List.cons_append, runNumbered, ih]

/-- The lines in front of the new one keep their numbers, and those behind it move down. -/
theorem map_zipIdx_lowered (front back : List Text) :
    ((front ++ back).zipIdx 1).map (Prod.map id (lowered front.length)) =
      front.zipIdx 1 ++ back.zipIdx (1 + front.length + 1) := by
  have above : (front.zipIdx 1).map (Prod.map id (lowered front.length)) =
      (front.zipIdx 1).map id := by
    apply List.map_congr_left
    rintro ⟨line, number⟩ member
    have bound := List.snd_lt_add_of_mem_zipIdx member
    rw [Prod.map, lowered, if_pos (by omega)]
    rfl
  have below : (back.zipIdx (1 + front.length)).map (Prod.map id (lowered front.length)) =
      (back.zipIdx (1 + front.length)).map (Prod.map id (· + 1)) := by
    apply List.map_congr_left
    rintro ⟨line, number⟩ member
    have bound := List.le_snd_of_mem_zipIdx member
    rw [Prod.map, lowered, if_neg (by omega)]
    rfl
  rw [List.zipIdx_append, List.map_append, above, below, List.map_id,
    List.map_snd_add_zipIdx_eq_zipIdx, Nat.add_comm 1 (1 + front.length)]

/-- With a blank line put in, the lines below have other numbers, and nothing else changes. -/
theorem run_insert {front back : List Text} (free : ∀ line ∈ back.head?, '|' ∉ line) :
    run options registry 1 (front ++ [] :: back) .empty =
      renumberedOutcome (lowered front.length) []
        (run options registry 1 (front ++ back) .empty) := by
  have numbered : ∀ entry ∈ (back.zipIdx (1 + front.length + 1)).head?, '|' ∉ entry.1 := by
    rw [List.head?_zipIdx]
    intro entry first
    obtain ⟨line, found, rfl⟩ := Option.map_eq_some_iff.1 first
    exact free line found
  have fresh : State.empty = State.empty.renumbered (lowered front.length) [] := rfl
  rw [run_eq_runNumbered, run_eq_runNumbered, ← runNumbered_renumbered, map_zipIdx_lowered,
    ← fresh, ← runNumbered_insert numbered, List.zipIdx_append, List.zipIdx_cons]

/-! ## Texts -/

/-- The second reading has the document of the first one and its diagnostics, renumbered. -/
def Agree (renumber : Nat → Nat) (first second : Reading) : Prop :=
  second.blocks = first.blocks ∧
    second.diagnostics = first.diagnostics.map (Diagnostic.renumbered renumber)

theorem agree_refl (reading : Reading) : Agree id reading reading := by
  refine ⟨rfl, ?_⟩
  rw [List.map_congr_left fun diagnostic _ => diagnostic.renumbered_id, List.map_id']

theorem Agree.trans {first second third : Reading} {renumber next : Nat → Nat}
    (earlier : Agree renumber first second) (later : Agree next second third) :
    Agree (next ∘ renumber) first third := by
  refine ⟨later.1.trans earlier.1, ?_⟩
  rw [later.2, earlier.2, List.map_map]
  exact List.map_congr_left fun diagnostic _ => diagnostic.renumbered_renumbered renumber next

/-- Where numbers can be recovered, agreement goes both ways. -/
theorem Agree.symm {first second : Reading} {renumber back : Nat → Nat}
    (agree : Agree renumber first second) (recovers : back ∘ renumber = id) :
    Agree back second first := by
  refine ⟨agree.1.symm, ?_⟩
  rw [agree.2, List.map_map]
  have same : ∀ diagnostic ∈ first.diagnostics,
      (Diagnostic.renumbered back ∘ Diagnostic.renumbered renumber) diagnostic = diagnostic := by
    intro diagnostic _
    rw [Function.comp_apply, Diagnostic.renumbered_renumbered, recovers,
      Diagnostic.renumbered_id]
  rw [List.map_congr_left same, List.map_id']

/-- What a text with the given lines is read as when they are trimmed. -/
def ofLines (options : Options) (registry : Registry) (lines : List Text) : Reading :=
  let (state, notes) := run options registry 1 (lines.map Text.trim) .empty
  ⟨state.finished.reverse, notes⟩

/-- Without preserved blanks a line is read as it is trimmed. -/
theorem read_eq_ofLines (trimming : options.preserveWhitespace = false) (text : Text) :
    read options registry text = ofLines options registry (Text.splitOn '\n' text) := by
  have trimmed : (lines text).map (prepare options) = (Text.splitOn '\n' text).map Text.trim := by
    rw [lines, List.map_map]
    apply List.map_congr_left
    intro line _
    rw [Function.comp_apply, prepare, trimming, if_neg Bool.false_ne_true, Text.trim_dropReturn]
  rw [read, trimmed]
  rfl

theorem ofLines_pad (front back : List Text) {line left right : Text}
    (blankLeft : Text.allBlank left = true) (blankRight : Text.allBlank right = true) :
    ofLines options registry (front ++ (left ++ line ++ right) :: back) =
      ofLines options registry (front ++ line :: back) := by
  have same : Text.trim (left ++ line ++ right) = Text.trim line := by
    rw [Text.trim_append_blank _ blankRight, Text.trim_blank_append blankLeft]
  rw [ofLines, ofLines, List.map_append, List.map_append, List.map_cons, List.map_cons, same]

theorem agree_insert (front back : List Text) {line : Text} (blank : Text.allBlank line = true)
    (free : ∀ next ∈ back.head?, '|' ∉ next) :
    Agree (lowered front.length) (ofLines options registry (front ++ back))
      (ofLines options registry (front ++ line :: back)) := by
  have trimmedFree : ∀ next ∈ (back.map Text.trim).head?, '|' ∉ next := by
    rw [List.head?_map]
    intro trimmed first bar
    obtain ⟨next, found, rfl⟩ := Option.map_eq_some_iff.1 first
    exact free next found (Text.trim_subset next bar)
  have inserted : run options registry 1 (front.map Text.trim ++ [] :: back.map Text.trim) .empty =
      renumberedOutcome (lowered (front.map Text.trim).length) [] _ := run_insert trimmedFree
  rw [List.length_map] at inserted
  have whole : ofLines options registry (front ++ line :: back) =
      ⟨(ofLines options registry (front ++ back)).blocks,
        (ofLines options registry (front ++ back)).notes.map
          (Note.renumbered (lowered front.length))⟩ := by
    rw [ofLines, List.map_append, List.map_cons, Text.trim_eq_nil_iff.2 blank, inserted]
    simp [renumberedOutcome, State.renumbered, ofLines]
  rw [whole]
  exact ⟨rfl, diagnostics_renumbered _ rfl⟩

/-- A single change to the layout leaves the document as it is. -/
theorem agree_edit {renumber : Nat → Nat} {before after : List Text}
    (edit : Edit renumber before after) :
    Agree renumber (ofLines options registry before) (ofLines options registry after) := by
  cases edit with
  | pad front back line left right blankLeft blankRight =>
      rw [ofLines_pad front back blankLeft blankRight]
      exact agree_refl _
  | strip front back line left right blankLeft blankRight =>
      rw [ofLines_pad front back blankLeft blankRight]
      exact agree_refl _
  | insert front back line blank free => exact agree_insert front back blank free
  | delete front back line blank free =>
      apply (agree_insert front back blank free).symm
      funext number
      exact raised_lowered front.length number

theorem agree_edits (trimming : options.preserveWhitespace = false) {renumber : Nat → Nat}
    {before after : Text} (edits : Edits renumber before after) :
    Agree renumber (read options registry before) (read options registry after) := by
  induction edits with
  | refl text => exact agree_refl _
  | tail earlier last ih =>
      apply ih.trans
      rw [read_eq_ofLines trimming, read_eq_ofLines trimming]
      exact agree_edit last

/-- Unless blanks are preserved, changes to the layout of a text change nothing about the document,
and nothing about the diagnostics but the numbers of lines that have moved. -/
theorem read_of_edits (options : Options) (registry : Registry)
    (trimming : options.preserveWhitespace = false) (renumber : Nat → Nat) (before after : Text)
    (edits : Edits renumber before after) :
    let first := read options registry before
    let second := read options registry after
    second.blocks = first.blocks ∧
      second.diagnostics = first.diagnostics.map (Diagnostic.renumbered renumber) ∧
      second.diagnostics.map Diagnostic.message = first.diagnostics.map fun diagnostic =>
        "Line ".toList ++ Text.ofNat (renumber diagnostic.line) ++ ": ".toList ++
          diagnostic.reason := by
  intro first second
  obtain ⟨blocks, diagnosed⟩ : Agree renumber first second := agree_edits trimming edits
  refine ⟨blocks, diagnosed, ?_⟩
  rw [diagnosed, List.map_map]
  exact List.map_congr_left fun diagnostic _ => diagnostic.message_renumbered renumber

/-- The line behind the table is indented, a blank line is put between the two, and the blank line
at the end is taken out. -/
theorem read_of_edits_table :
    let options : Options := { strict := true }
    let before := "[workflow\n|a|\n# x\n]\n ".toList
    let after := "[workflow\n|a|\n\t\n  # x\n]".toList
    let second := read options Registry.builtin after
    Edits (raised 5 ∘ lowered 2 ∘ id ∘ id) before after ∧ second.blocks.length = 1 ∧
      second.diagnostics.map Diagnostic.line = [2, 4] := by
  intro options before after second
  have indented : Edit id (Text.splitOn '\n' before)
      (Text.splitOn '\n' "[workflow\n|a|\n  # x\n]\n ".toList) :=
    .pad ["[workflow".toList, "|a|".toList] ["]".toList, " ".toList] "# x".toList "  ".toList [] rfl
      rfl
  have inserted : Edit (lowered 2) (Text.splitOn '\n' "[workflow\n|a|\n  # x\n]\n ".toList)
      (Text.splitOn '\n' "[workflow\n|a|\n\t\n  # x\n]\n ".toList) :=
    .insert ["[workflow".toList, "|a|".toList] ["  # x".toList, "]".toList, " ".toList] "\t".toList
      rfl (by decide)
  have deleted : Edit (raised 5) (Text.splitOn '\n' "[workflow\n|a|\n\t\n  # x\n]\n ".toList)
      (Text.splitOn '\n' after) :=
    .delete ["[workflow".toList, "|a|".toList, "\t".toList, "  # x".toList, "]".toList] []
      " ".toList rfl (by simp)
  have edits : Edits (raised 5 ∘ lowered 2 ∘ id ∘ id) before after :=
    (((Edits.refl before).tail indented).tail inserted).tail deleted
  obtain ⟨blocks, diagnosed, -⟩ :=
    read_of_edits options Registry.builtin rfl _ before after edits
  refine ⟨edits, ?_, ?_⟩
  · rw [blocks]
    rfl
  · rw [diagnosed]
    rfl

end Reading

end Mockup
