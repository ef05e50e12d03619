import Mockup.Proofs.Rules

/-!
# Where fields stand

A line is searched for fields from left to right. Each field takes the shortest label that has
blanks and a marker behind it, and the search goes on behind that marker. What comes of it is said
here without the search: the line is cut into labels, blanks, markers and a rest, nowhere in a label
or in the rest could another field have ended, and no other cut of the line is like that.
-/

namespace Mockup.Field

/-- The markers of the fields that may stand side by side. -/
def sideMarks : List Text :=
  [textareaMark, textMark, passwordMark, dropdownMark, checkboxMark]

/-- Options in brackets, with the blanks in front of them. -/
def IsOptionList (options : Text) : Prop :=
  ∃ blanks list, options = blanks ++ '[' :: list ++ [']'] ∧ Text.allBlank blanks = true ∧
    list ≠ [] ∧ ']' ∉ list

/-- The text of a marker, which may have options behind it if it is that of a drop-down list. -/
inductive IsMarker : Text → Prop where
  | bare {marker : Text} (known : marker ∈ sideMarks) : IsMarker marker
  | listed {options : Text} (bracketed : IsOptionList options) :
      IsMarker (dropdownMark ++ options)

variable {text marker options rest : Text}

theorem marks_eq_sideMarks : marks = sideMarks ++ [radioMark] := rfl

/-- Every marker starts with one of the signs. -/
theorem IsMarker.exists_prefix (marked : IsMarker marker) :
    ∃ mark ∈ sideMarks, mark <+: marker := by
  cases marked with
  | bare known => exact ⟨marker, known, List.prefix_rfl⟩
  | listed => exact ⟨dropdownMark, by decide, List.prefix_append _ _⟩

/-- A marker does not start with a blank. -/
theorem IsMarker.visible (marked : IsMarker marker) (rest : Text) :
    ∀ character ∈ (marker ++ rest).head?, Text.isBlank character = false := by
  have heads : ∀ mark ∈ sideMarks, mark.head?.all (fun first => !Text.isBlank first) = true ∧
      mark ≠ [] := by
    decide
  obtain ⟨mark, known, behind, rfl⟩ := marked.exists_prefix
  obtain ⟨visible, nonempty⟩ := heads mark known
  obtain ⟨first, others, rfl⟩ := List.exists_cons_of_ne_nil nonempty
  rintro character ⟨⟩
  simpa using visible

theorem readOptionList?_eq_some_iff :
    readOptionList? text = some (options, rest) ↔
      text = options ++ rest ∧ IsOptionList options := by
  constructor
  · intro read
    simp only [readOptionList?, Option.bind_eq_bind, Option.bind_eq_some_iff,
      Text.after?_eq_some_iff, Option.some.injEq, Prod.mk.injEq] at read
    obtain ⟨inner, opened, ⟨list, behind⟩, enclosed, rfl, rfl⟩ := read
    obtain ⟨⟨rfl, free⟩, nonempty⟩ := Text.upTo?_eq_some_iff.1 enclosed
    have whole := List.takeWhile_append_dropWhile (p := Text.isBlank) (l := text)
    rw [← Text.trimStart, opened] at whole
    exact ⟨whole.symm.trans (by simp), _, list, rfl, List.all_takeWhile, nonempty, free⟩
  · rintro ⟨rfl, blanks, list, rfl, blank, nonempty, free⟩
    have shape : blanks ++ '[' :: list ++ [']'] ++ rest =
        blanks ++ '[' :: (list ++ ']' :: rest) := by
      simp
    have bracket : Text.isBlank '[' = false := by decide
    have trimmed : Text.trimStart (blanks ++ '[' :: (list ++ ']' :: rest)) =
        '[' :: (list ++ ']' :: rest) := by
      rw [Text.trimStart_blank_append blank, Text.trimStart_eq_self (by simpa using bracket)]
    have front : (blanks ++ '[' :: (list ++ ']' :: rest)).takeWhile Text.isBlank = blanks := by
      rw [List.takeWhile_append_of_pos (List.all_eq_true.1 blank)]
      simp [bracket]
    have inside : Text.upTo? ']' (list ++ ']' :: rest) = some (list, rest) :=
      Text.upTo?_eq_some_iff.2 ⟨⟨rfl, free⟩, nonempty⟩
    rw [shape, readOptionList?, trimmed, Text.after?, if_pos rfl, Text.after?_nil]
    simp [inside, front]

theorem readOptionList?_eq_none_iff :
    readOptionList? text = none ↔ ∀ options, IsOptionList options → ¬options <+: text := by
  rw [Option.eq_none_iff_forall_ne_some]
  constructor
  · rintro unread options bracketed ⟨rest, rfl⟩
    exact unread (options, rest) (readOptionList?_eq_some_iff.2 ⟨rfl, bracketed⟩)
  · rintro absent ⟨options, rest⟩ read
    obtain ⟨rfl, bracketed⟩ := readOptionList?_eq_some_iff.1 read
    exact absent options bracketed (List.prefix_append _ _)

/-- The marker takes all that belongs to it: it is not that of a drop-down list with the options
left over. -/
def TakesOptions (marker rest : Text) : Prop :=
  marker = dropdownMark → ∀ options, IsOptionList options → ¬options <+: rest

/-- Behind the sign of a drop-down list its options are looked for. -/
theorem readMarker?_dropdownMark (text : Text) :
    readMarker? (dropdownMark ++ text) =
      match readOptionList? text with
      | some (options, rest) => some (dropdownMark ++ options, rest)
      | none => some (dropdownMark, text) := by
  have noText : Text.after? textMark (dropdownMark ++ text) = none := rfl
  have noArea : Text.after? textareaMark (dropdownMark ++ text) = none := rfl
  have noPassword : Text.after? passwordMark (dropdownMark ++ text) = none := rfl
  cases listed : readOptionList? text with
  | none => simp only [readMarker?, noText, noArea, noPassword, Text.after?_append, listed]
  | some found => simp only [readMarker?, noText, noArea, noPassword, Text.after?_append, listed]

theorem IsOptionList.ne_nil (bracketed : IsOptionList options) : options ≠ [] := by
  obtain ⟨blanks, list, rfl, -⟩ := bracketed
  simp

theorem takesOptions_listed (bracketed : IsOptionList options) :
    TakesOptions (dropdownMark ++ options) rest := by
  intro bare
  exact absurd (List.append_right_eq_self.1 bare) bracketed.ne_nil

/-- What is read is one of the markers, as far as it goes. -/
theorem readMarker?_eq_some_iff :
    readMarker? text = some (marker, rest) ↔
      text = marker ++ rest ∧ IsMarker marker ∧ TakesOptions marker rest := by
  constructor
  · intro read
    refine ⟨(readMarker?_eq_some read).1, ?_⟩
    rw [readMarker?] at read
    split at read
    · cases read
      exact ⟨.bare (by decide), fun same => absurd same (by decide)⟩
    · split at read
      · cases read
        exact ⟨.bare (by decide), fun same => absurd same (by decide)⟩
      · split at read
        · cases read
          exact ⟨.bare (by decide), fun same => absurd same (by decide)⟩
        · split at read
          · split at read
            · rename_i listed
              cases read
              have bracketed := (readOptionList?_eq_some_iff.1 listed).2
              exact ⟨.listed bracketed, takesOptions_listed bracketed⟩
            · rename_i unlisted
              cases read
              exact ⟨.bare (by decide), fun _ => readOptionList?_eq_none_iff.1 unlisted⟩
          · obtain ⟨behind, -, same⟩ := Option.map_eq_some_iff.1 read
            cases same
            exact ⟨.bare (by decide), fun same => absurd same (by decide)⟩
  · rintro ⟨rfl, marked, takes⟩
    cases marked with
    | bare known =>
        simp only [sideMarks, List.mem_cons, List.not_mem_nil, or_false] at known
        rcases known with rfl | rfl | rfl | rfl | rfl
        · rfl
        · rfl
        · rfl
        · have unlisted := readOptionList?_eq_none_iff.2 (takes rfl)
          rw [readMarker?_dropdownMark, unlisted]
        · rfl
    | listed bracketed =>
        have listed : readOptionList? (_ ++ rest) = some (_, rest) :=
          readOptionList?_eq_some_iff.2 ⟨rfl, bracketed⟩
        rw [List.append_assoc, readMarker?_dropdownMark, listed]

/-- A marker is read wherever one stands. -/
theorem readMarker?_eq_none_iff :
    readMarker? text = none ↔ ∀ marker, IsMarker marker → ¬marker <+: text := by
  rw [Option.eq_none_iff_forall_ne_some]
  constructor
  · rintro unread marker marked ⟨rest, rfl⟩
    by_cases takes : TakesOptions marker rest
    · exact unread (marker, rest) (readMarker?_eq_some_iff.2 ⟨rfl, marked, takes⟩)
    · simp only [TakesOptions, not_forall, not_not] at takes
      obtain ⟨rfl, options, bracketed, rest, rfl⟩ := takes
      apply unread (dropdownMark ++ options, rest)
      rw [readMarker?_eq_some_iff, List.append_assoc]
      exact ⟨rfl, .listed bracketed, takesOptions_listed bracketed⟩
  · rintro absent ⟨marker, rest⟩ read
    obtain ⟨rfl, marked, -⟩ := readMarker?_eq_some_iff.1 read
    exact absent marker marked (List.prefix_append _ _)

/-- Blanks and a marker, which end a field, stand at the start of a text. -/
def EndsField (text : Text) : Prop :=
  ∃ blanks marker rest, text = blanks ++ (marker ++ rest) ∧ blanks ≠ [] ∧
    Text.allBlank blanks = true ∧ IsMarker marker

variable {line label blanks : Text} {fields : List (Text × Text)}

/-- Behind blanks the marker is read that stands there. -/
theorem behindBlanks?_readMarker?_eq_some_iff :
    Text.behindBlanks? readMarker? text = some (marker, rest) ↔
      ∃ blanks, text = blanks ++ (marker ++ rest) ∧ blanks ≠ [] ∧ Text.allBlank blanks = true ∧
        IsMarker marker ∧ TakesOptions marker rest := by
  constructor
  · intro behind
    obtain ⟨blanks, ahead, rfl, nonempty, blank, read⟩ := Text.exists_of_behindBlanks? behind
    obtain ⟨rfl, marked⟩ := readMarker?_eq_some_iff.1 read
    exact ⟨blanks, rfl, nonempty, blank, marked⟩
  · rintro ⟨blanks, rfl, nonempty, blank, marked, takes⟩
    rw [Text.behindBlanks?_append blank nonempty (marked.visible rest)]
    exact readMarker?_eq_some_iff.2 ⟨rfl, marked, takes⟩

theorem behindBlanks?_readMarker?_eq_none_iff :
    Text.behindBlanks? readMarker? text = none ↔ ¬EndsField text := by
  constructor
  · rintro unread ⟨blanks, marker, rest, rfl, nonempty, blank, marked⟩
    rw [Text.behindBlanks?_append blank nonempty (marked.visible rest)] at unread
    exact readMarker?_eq_none_iff.1 unread marker marked (List.prefix_append _ _)
  · intro absent
    rw [Option.eq_none_iff_forall_ne_some]
    rintro ⟨marker, rest⟩ read
    obtain ⟨blanks, whole, nonempty, blank, marked, -⟩ :=
      behindBlanks?_readMarker?_eq_some_iff.1 read
    exact absent ⟨blanks, marker, rest, whole, nonempty, blank, marked⟩

/-! ## Lines of fields -/

/-- A field as it stands in front of a rest: its label goes up to the first blanks behind which
there is a marker. -/
structure Stands (label blanks marker rest : Text) : Prop where
  labelled : label ≠ []
  apart : blanks ≠ []
  blank : Text.allBlank blanks = true
  marked : IsMarker marker
  takes : TakesOptions marker rest
  first : ∀ part, part <:+ label → part ≠ label → part ≠ [] →
    ¬EndsField (part ++ (blanks ++ (marker ++ rest)))

/-- A line is cut into fields, of which the labels and the markers are listed, and a rest. Behind
its first character the rest holds no end of a field. -/
inductive Segmented : (line : Text) → (fields : List (Text × Text)) → Prop where
  | rest {rest : Text} (ended : ∀ part, part <:+ rest → part ≠ rest → ¬EndsField part) :
      Segmented rest []
  | field {label blanks marker rest : Text} {fields : List (Text × Text)}
      (stands : Stands label blanks marker rest) (others : Segmented rest fields) :
      Segmented (label ++ (blanks ++ (marker ++ rest))) ((label, marker) :: fields)

/-- A label ends with a blank only if it is that blank: the blanks behind a longer label would
start earlier. -/
theorem Stands.label_eq (stands : Stands label blanks marker rest) {last : Char}
    (ended : label.getLast? = some last) (hidden : Text.isBlank last = true) : label = [last] := by
  obtain ⟨front, rfl⟩ := List.getLast?_eq_some_iff.1 ended
  by_cases alone : front = []
  · rw [alone, List.nil_append]
  · have early : EndsField ([last] ++ (blanks ++ (marker ++ rest))) := by
      refine ⟨last :: blanks, marker, rest, rfl, List.cons_ne_nil _ _, ?_, stands.marked⟩
      rw [Text.allBlank, List.all_cons, hidden]
      exact stands.blank
    have proper : [last] ≠ front ++ [last] := by simpa using Ne.symm alone
    exact absurd early
      (stands.first [last] (List.suffix_append _ _) proper (List.cons_ne_nil _ _))

theorem next?_eq_some_iff :
    next? line = some (label, marker, rest) ↔
      ∃ blanks, line = label ++ (blanks ++ (marker ++ rest)) ∧
        Stands label blanks marker rest := by
  rw [next?, Text.until?_eq_some_iff]
  constructor
  · rintro ⟨labelled, ahead, rfl, behind, unread⟩
    obtain ⟨blanks, rfl, apart, blank, marked, takes⟩ :=
      behindBlanks?_readMarker?_eq_some_iff.1 behind
    refine ⟨blanks, rfl, labelled, apart, blank, marked, takes, ?_⟩
    intro part within proper nonempty
    exact behindBlanks?_readMarker?_eq_none_iff.1 (unread part within proper nonempty)
  · rintro ⟨blanks, rfl, stands⟩
    refine ⟨stands.labelled, _, rfl, ?_, ?_⟩
    · exact behindBlanks?_readMarker?_eq_some_iff.2
        ⟨blanks, rfl, stands.apart, stands.blank, stands.marked, stands.takes⟩
    · intro part within proper nonempty
      exact behindBlanks?_readMarker?_eq_none_iff.2 (stands.first part within proper nonempty)

theorem next?_eq_none_iff :
    next? line = none ↔ ∀ part, part <:+ line → part ≠ line → ¬EndsField part := by
  simp only [next?, Text.until?_eq_none_iff, behindBlanks?_readMarker?_eq_none_iff]

/-- No field is found exactly if none could end behind the first character. -/
theorem findAll_eq_nil_iff :
    findAll line = [] ↔ ∀ part, part <:+ line → part ≠ line → ¬EndsField part := by
  rw [← next?_eq_none_iff]
  constructor
  · intro empty
    rw [Option.eq_none_iff_forall_ne_some]
    rintro ⟨label, marker, rest⟩ found
    rw [findAll_eq_cons found] at empty
    cases empty
  · exact findAll_eq_nil

/-- The fields that are found cut the line. -/
theorem segmented_findAll (line : Text) : Segmented line (findAll line) := by
  fun_induction findAll line with
  | case1 line absent => exact .rest (next?_eq_none_iff.1 absent)
  | case2 line label marker rest found ih =>
      obtain ⟨blanks, rfl, stands⟩ := next?_eq_some_iff.1 found
      exact .field stands ih

/-- A line is cut into fields in one way only, and these are found. -/
theorem Segmented.findAll_eq (segmented : Segmented line fields) : findAll line = fields := by
  induction segmented with
  | rest ended => exact findAll_eq_nil (next?_eq_none_iff.2 ended)
  | field stands _ ih => rw [findAll_eq_cons (next?_eq_some_iff.2 ⟨_, rfl, stands⟩), ih]

theorem Segmented.label_eq (segmented : Segmented line fields) :
    ∀ field ∈ fields, ∀ last, field.1.getLast? = some last → Text.isBlank last = true →
      field.1 = [last] := by
  induction segmented with
  | rest => exact nofun
  | field stands _ ih =>
      rw [List.forall_mem_cons]
      exact ⟨fun last ended hidden => stands.label_eq ended hidden, ih⟩

/-- Finding the fields of a line is cutting it: the line is made of labels, each with blanks and a
marker behind it, and of a rest. A label goes up to the first end of a field behind its first
character, and the rest holds none behind its first character, so that no marker is left out and
none is used twice. There is one such cut of every line, and a label in it ends with a blank only
if it is a single one. -/
theorem findAll_eq_iff (line : Text) (fields : List (Text × Text)) :
    (findAll line = fields ↔ Segmented line fields) ∧
      ∀ field ∈ findAll line, ∀ last, field.1.getLast? = some last → Text.isBlank last = true →
        field.1 = [last] := by
  refine ⟨⟨?_, Segmented.findAll_eq⟩, (segmented_findAll line).label_eq⟩
  rintro rfl
  exact segmented_findAll line

/-- The first of two blanks is a label, and an option list that is not closed is no part of its
marker. -/
theorem findAll_eq_iff_blank :
    findAll "  ___ b __> [c".toList =
        [(" ".toList, "___".toList), (" b".toList, "__>".toList)] ∧
      Segmented "  ___ b __> [c".toList
        [(" ".toList, "___".toList), (" b".toList, "__>".toList)] ∧
      " ".toList.getLast? = some ' ' ∧ Text.isBlank ' ' = true ∧ " ".toList = [' '] := by
  have found : findAll "  ___ b __> [c".toList =
      [(" ".toList, "___".toList), (" b".toList, "__>".toList)] := by
    decide +kernel
  obtain ⟨cuts, ended⟩ := findAll_eq_iff "  ___ b __> [c".toList
    [(" ".toList, "___".toList), (" b".toList, "__>".toList)]
  rw [found] at ended
  have label := ended _ List.mem_cons_self ' ' rfl rfl
  exact ⟨found, cuts.1 found, rfl, rfl, label⟩

end Mockup.Field
