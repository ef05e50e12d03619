import Mathlib.Data.Nat.Digits.Defs
import Mockup.Html.Grid
import Mockup.Proofs.Directives.Grammar

/-!
# The style of a grid

Which style a configuration has, said about the words and settings that it spells: the number text
that is in force for a key, the clause that is made of it, and the gaps that cannot be computed.
Three kinds of digits meet here. A word gives a number only in decimal digits; a number text makes a
clause if it consists of digits in the wider sense; and a gap is computed only from decimal digits,
no more of them than a number is read with, and only if it can be written with no more.
-/

namespace Mockup

namespace Text

variable {text : Text}

theorem decimalValues?_of_decimal
    (decimal : ∀ character ∈ text, (decimalValue? character).isSome = true) :
    decimalValues? text = some (text.filterMap decimalValue?) := by
  induction text with
  | nil => rfl
  | cons character text ih =>
      obtain ⟨here, others⟩ := List.forall_mem_cons.1 decimal
      obtain ⟨value, found⟩ := Option.isSome_iff_exists.1 here
      rw [decimalValues?, List.mapM_cons, ← decimalValues?, found, ih others,
        List.filterMap_cons_some found]
      rfl

theorem decimalValues?_of_mem {character : Char} (member : character ∈ text)
    (undecimal : decimalValue? character = none) : decimalValues? text = none := by
  induction text with
  | nil => cases member
  | cons first text ih =>
      rw [decimalValues?, List.mapM_cons, ← decimalValues?]
      rcases List.mem_cons.1 member with rfl | later
      · rw [undecimal]
        rfl
      · rw [ih later]
        cases decimalValue? first <;> rfl

theorem decimalValues?_isSome_iff : (decimalValues? text).isSome = true ↔
    ∀ character ∈ text, (decimalValue? character).isSome = true := by
  constructor
  · intro decimal character member
    rw [Option.isSome_iff_ne_none] at decimal ⊢
    exact fun undecimal => decimal (decimalValues?_of_mem member undecimal)
  · intro decimal
    rw [decimalValues?_of_decimal decimal]
    rfl

theorem numberOf_eq_ofDigits (values : List Nat) :
    numberOf values = Nat.ofDigits 10 values.reverse := by
  induction values using List.reverseRecOn with
  | nil => rfl
  | append_singleton values value ih =>
      rw [numberOf, List.foldl_concat, ← numberOf, ih, List.reverse_append, List.reverse_singleton,
        List.singleton_append, Nat.ofDigits_cons, Nat.add_comm]

theorem lt_length_ofNat_iff {count value : Nat} (positive : 0 < count) :
    count < (ofNat value).length ↔ 10 ^ count ≤ value := by
  have short : (ofNat value).length ≤ count ↔ value < 10 ^ count :=
    Nat.length_toDigits_le_iff (by decide) positive
  rw [← Nat.not_le, short, Nat.not_lt]

theorem writeNumber_natCast (value : Nat) :
    writeNumber value =
      if 10 ^ 4300 ≤ value then .error .tooLarge else .ok (ofNat value) := by
  have limit : NumberError.digitLimit = 4300 := rfl
  have written : ofInt value = ofNat value := rfl
  rw [writeNumber, Int.natAbs_natCast, limit, written]
  simp only [lt_length_ofNat_iff (Nat.zero_lt_succ _)]

end Text

namespace Grid

open Directives (Entry Spells)

/-- A nonempty run of decimal digits. -/
def IsNumber (text : Text) : Prop :=
  text ≠ [] ∧ ∀ character ∈ text, (Text.decimalValue? character).isSome = true

/-- The number that the decimal digits of a text stand for. -/
def decimal (number : Text) : Nat :=
  Nat.ofDigits 10 (number.filterMap Text.decimalValue?).reverse

/-- A text of digits that no gap is computed from: it is not decimal, or too long, or the gap is
too large to be written. -/
def Incomputable (number : Text) : Prop :=
  (∃ character ∈ number, Text.decimalValue? character = none) ∨ 4300 < number.length ∨
    10 ^ 4300 ≤ 4 * decimal number

variable {number : Text}

theorem readNumber_of_undecimal {character : Char} (member : character ∈ number)
    (undecimal : Text.decimalValue? character = none) :
    ∃ cause, Text.readNumber number = .error cause := by
  rw [Text.readNumber, Text.decimalValues?_of_mem member undecimal]
  split
  · exact ⟨_, rfl⟩
  · exact ⟨_, rfl⟩

theorem readNumber_of_isNumber (numeric : IsNumber number) :
    Text.readNumber number =
      if 4300 < number.length then .error (.tooManyDigits number.length)
      else .ok (decimal number) := by
  have whole : (number.takeWhile fun character => (Text.decimalValue? character).isSome) =
      number := List.takeWhile_eq_self_iff.2 numeric.2
  have limit : NumberError.digitLimit = 4300 := rfl
  rw [Text.readNumber, whole, Text.decimalValues?_of_decimal numeric.2, limit]
  split
  · rfl
  · obtain ⟨first, others, rfl⟩ := List.exists_cons_of_ne_nil numeric.1
    obtain ⟨value, found⟩ := Option.isSome_iff_exists.1 (numeric.2 first List.mem_cons_self)
    rw [decimal, ← Text.numberOf_eq_ofDigits, List.filterMap_cons_some found]

theorem pixels_of_isNumber (numeric : IsNumber number) :
    pixels number =
      if 4300 < number.length then .error (.tooManyDigits number.length)
      else if 10 ^ 4300 ≤ 4 * decimal number then .error .tooLarge
      else .ok (Text.ofNat (4 * decimal number)) := by
  rw [pixels, readNumber_of_isNumber numeric]
  by_cases long : 4300 < number.length
  · rw [if_pos long, if_pos long]
  · rw [if_neg long, if_neg long, ← Text.writeNumber_natCast, Nat.cast_mul]
    rfl

theorem isNumber_or_exists (filled : number ≠ []) :
    IsNumber number ∨ ∃ character ∈ number, Text.decimalValue? character = none := by
  by_cases undecimal : ∃ character ∈ number, Text.decimalValue? character = none
  · exact .inr undecimal
  · refine .inl ⟨filled, fun character member => ?_⟩
    rw [Option.isSome_iff_ne_none]
    exact fun missing => undecimal ⟨character, member, missing⟩

theorem exists_pixels_eq_error (incomputable : Incomputable number) (filled : number ≠ []) :
    ∃ cause, pixels number = .error cause := by
  rcases isNumber_or_exists filled with numeric | ⟨character, member, undecimal⟩
  · rw [pixels_of_isNumber numeric]
    rcases incomputable with ⟨character, member, undecimal⟩ | long | large
    · have decimal := numeric.2 character member
      rw [undecimal] at decimal
      cases decimal
    · exact ⟨_, if_pos long⟩
    · rw [if_pos large]
      split
      · exact ⟨_, rfl⟩
      · exact ⟨_, rfl⟩
  · obtain ⟨cause, failed⟩ := readNumber_of_undecimal member undecimal
    exact ⟨cause, by rw [pixels, failed]⟩

theorem pixels_of_not_incomputable (computable : ¬Incomputable number) (filled : number ≠ []) :
    pixels number = .ok (Text.ofNat (4 * decimal number)) := by
  rw [Incomputable, not_or, not_or] at computable
  obtain ⟨decimal, short, small⟩ := computable
  have numeric := (isNumber_or_exists filled).resolve_right decimal
  rw [pixels_of_isNumber numeric, if_neg short, if_neg small]

/-! ## The number text in force -/

/-- An entry that gives a number by a word such as `cols-2`. -/
def Numbers (key : Text) (entry : Entry) (number : Text) : Prop :=
  entry = .word (key ++ '-' :: number) ∧ IsNumber number

/-- An entry that gives a text by a setting such as `cols=2`. -/
def Sets (key : Text) (entry : Entry) (value : Text) : Prop :=
  entry = .setting key value

/-- What is given by the last entry that gives anything. -/
def LastGiven (gives : Entry → Text → Prop) (entries : List Entry) (given : Text) : Prop :=
  ∃ front entry rest, entries = front ++ entry :: rest ∧ gives entry given ∧
    ∀ later ∈ rest, ∀ other, ¬gives later other

/-- The number text for a key: that of the last word for it, or else the value of the last setting,
wherever words and settings stand. -/
def InForce (key : Text) (entries : List Entry) (number : Text) : Prop :=
  LastGiven (Numbers key) entries number ∨
    (∀ entry ∈ entries, ∀ other, ¬Numbers key entry other) ∧ LastGiven (Sets key) entries number

/-- The number text for a key, if it is made of digits. -/
def Effective (key : Text) (entries : List Entry) (number : Text) : Prop :=
  InForce key entries number ∧ ∀ character ∈ number, Text.isDigit character = true

section LastGiven

variable {gives : Entry → Text → Prop} {read : Entry → Option Text} {entries : List Entry}

theorem getLast?_eq_some_iff {given : Text}
    (reads : ∀ entry given, read entry = some given ↔ gives entry given) :
    (entries.filterMap read).getLast? = some given ↔ LastGiven gives entries given := by
  have silent : ∀ entry, read entry = none ↔ ∀ other, ¬gives entry other := by
    intro entry
    simp only [Option.eq_none_iff_forall_ne_some, ne_eq, reads]
  rw [List.getLast?_filterMap, List.findSome?_eq_some_iff]
  constructor
  · rintro ⟨rest, entry, front, reversed, found, later⟩
    refine ⟨front.reverse, entry, rest.reverse, ?_, (reads entry given).1 found, ?_⟩
    · simpa using congrArg List.reverse reversed
    · intro other member
      exact (silent other).1 (later other (List.mem_reverse.1 member))
  · rintro ⟨front, entry, rest, rfl, found, later⟩
    refine ⟨rest.reverse, entry, front.reverse, by simp, (reads entry given).2 found, ?_⟩
    intro other member
    exact (silent other).2 (later other (List.mem_reverse.1 member))

theorem getLast?_eq_none_iff (reads : ∀ entry given, read entry = some given ↔ gives entry given) :
    (entries.filterMap read).getLast? = none ↔
      ∀ entry ∈ entries, ∀ other, ¬gives entry other := by
  rw [List.getLast?_eq_none_iff, List.filterMap_eq_nil_iff]
  simp only [Option.eq_none_iff_forall_ne_some, ne_eq, reads]

end LastGiven

variable {config key : Text} {entries : List Entry}

theorem numbered?_eq_some_iff {word : Text} :
    numbered? key word = some number ↔ word = key ++ '-' :: number ∧ IsNumber number := by
  simp only [numbered?, Option.bind_eq_bind, Option.bind_eq_some_iff, Text.after?_eq_some_iff,
    List.append_assoc, List.singleton_append, Text.decimalValues?_isSome_iff]
  constructor
  · rintro ⟨inner, rfl, guarded⟩
    split at guarded
    · rename_i numeric
      cases guarded
      exact ⟨rfl, numeric⟩
    · cases guarded
  · rintro ⟨rfl, numeric⟩
    exact ⟨number, rfl, if_pos numeric⟩

theorem numbered?_word?_eq_some_iff (key : Text) (entry : Entry) (number : Text) :
    entry.word?.bind (numbered? key) = some number ↔ Numbers key entry number := by
  cases entry with
  | word content => simp [Entry.word?, Numbers, numbered?_eq_some_iff]
  | setting other value => simp [Entry.word?, Numbers]

/-- The text that an entry sets a key to. -/
def set? (key : Text) (entry : Entry) : Option Text :=
  entry.setting?.bind fun setting => if key == setting.1 then some setting.2 else none

theorem set?_eq_some_iff (key : Text) (entry : Entry) (value : Text) :
    set? key entry = some value ↔ Sets key entry value := by
  cases entry with
  | word content => simp [set?, Entry.setting?, Sets]
  | setting other given => simp [set?, Entry.setting?, Sets, @eq_comm _ key]

theorem get?_foldl_add_eq (entries : List Entry) (key : Text) :
    (entries.foldl Directives.add .empty).get? key = (entries.filterMap (set? key)).getLast? := by
  rw [Directives.get?_foldl_add, List.lookup_eq_findSome?, ← List.getLast?_filterMap,
    Directives.assignments, List.filterMap_filterMap]
  rfl

theorem chosen?_eq_some_iff :
    chosen? key (entries.foldl Directives.add .empty) = some number ↔
      InForce key entries number := by
  have numbers := numbered?_word?_eq_some_iff key
  rw [InForce, ← getLast?_eq_some_iff numbers, ← getLast?_eq_none_iff numbers,
    ← getLast?_eq_some_iff (set?_eq_some_iff key), chosen?, Directives.words_foldl_add,
    List.filterMap_filterMap, get?_foldl_add_eq]
  cases (entries.filterMap fun entry => entry.word?.bind (numbered? key)).getLast? with
  | some last => simp
  | none => simp

theorem ne_nil_of_inForce (spells : Spells config entries) (inForce : InForce key entries number) :
    number ≠ [] := by
  rcases inForce with ⟨-, -, -, -, ⟨-, numeric⟩, -⟩ | ⟨-, set⟩
  · exact numeric.1
  · have found := (getLast?_eq_some_iff (set?_eq_some_iff key)).2 set
    rw [← get?_foldl_add_eq] at found
    exact (Directives.get?_within (Directives.read_of_spells spells) found).1

theorem digits?_eq_some_iff (spells : Spells config entries) :
    digits? key (entries.foldl Directives.add .empty) = some number ↔
      Effective key entries number := by
  rw [digits?, Option.filter_eq_some_iff, chosen?_eq_some_iff, decide_eq_true_iff,
    List.all_eq_true]
  constructor
  · rintro ⟨inForce, -, digits⟩
    exact ⟨inForce, digits⟩
  · rintro ⟨inForce, digits⟩
    exact ⟨inForce, ne_nil_of_inForce spells inForce, digits⟩

/-- The clauses of a style that are made of the number text for a key: one if there is a number
text, and else none. -/
def Clauses (key : Text) (entries : List Entry) (write : Text → Text) (clauses : List Text) :
    Prop :=
  (∃ number, Effective key entries number ∧ clauses = [write number]) ∨
    (∀ number, ¬Effective key entries number) ∧ clauses = []

/-- The columns repeat the number text as it is. -/
def writeColumns (number : Text) : Text :=
  "grid-template-columns: repeat(".toList ++ number ++ ", 1fr)".toList

/-- The gap is four pixels for each unit. -/
def writeGap (number : Text) : Text :=
  "gap: ".toList ++ Text.ofNat (4 * decimal number) ++ "px".toList

theorem clauses_iff (spells : Spells config entries) {write : Text → Text} {clauses : List Text} :
    Clauses key entries write clauses ↔
      clauses = ((digits? key (entries.foldl Directives.add .empty)).map write).toList := by
  simp only [Clauses, ← digits?_eq_some_iff spells]
  cases digits? key (entries.foldl Directives.add .empty) with
  | none => simp
  | some number => simp

theorem Clauses.unique {write : Text → Text} {clauses others : List Text}
    (first : Clauses key entries write clauses) (second : Clauses key entries write others)
    (spells : Spells config entries) : clauses = others :=
  ((clauses_iff spells).1 first).trans ((clauses_iff spells).1 second).symm

theorem clauses_columnsClause (spells : Spells config entries) :
    Clauses "cols".toList entries writeColumns
      (columnsClause (entries.foldl Directives.add .empty)) := by
  rw [clauses_iff spells, columnsClause]
  cases digits? "cols".toList (entries.foldl Directives.add .empty) with
  | none => rfl
  | some number => rfl

/-- The gap in force cannot be computed, or its clause is made. -/
theorem gapClause_cases (spells : Spells config entries) :
    (∃ gap cause, Effective "gap".toList entries gap ∧ Incomputable gap ∧
      gapClause (entries.foldl Directives.add .empty) = .error cause) ∨
    (∀ gap, Effective "gap".toList entries gap → ¬Incomputable gap) ∧
      ∃ clauses, Clauses "gap".toList entries writeGap clauses ∧
        gapClause (entries.foldl Directives.add .empty) = .ok clauses := by
  simp only [clauses_iff spells, ← digits?_eq_some_iff spells, gapClause]
  cases found : digits? "gap".toList (entries.foldl Directives.add .empty) with
  | none => exact .inr ⟨nofun, [], rfl, rfl⟩
  | some gap =>
      have filled := ne_nil_of_inForce spells ((digits?_eq_some_iff spells).1 found).1
      by_cases incomputable : Incomputable gap
      · obtain ⟨cause, failed⟩ := exists_pixels_eq_error incomputable filled
        refine .inl ⟨gap, cause, rfl, incomputable, ?_⟩
        dsimp only
        rw [failed]
        rfl
      · refine .inr ⟨?_, [writeGap gap], rfl, ?_⟩
        · rintro _ ⟨⟩
          exact incomputable
        · dsimp only
          rw [pixels_of_not_incomputable incomputable filled]
          rfl

/-- A configuration that is refused has an empty style. Any other one consists of words and
settings, and its style of the clauses for the columns and the gap that are in force, as far as
these are made of digits. It has no style exactly if that gap is not decimal, too long or too
large. -/
theorem style_spelled (config : Text) :
    match Directives.read config with
    | .error _ => style config = .ok []
    | .ok _ => ∃ entries, Spells config entries ∧
        ((∃ cause, style config = .error cause) ↔
          ∃ gap, Effective "gap".toList entries gap ∧ Incomputable gap) ∧
        ∀ text, style config = .ok text ↔
          (∀ gap, Effective "gap".toList entries gap → ¬Incomputable gap) ∧
            ∃ columns gap, Clauses "cols".toList entries writeColumns columns ∧
              Clauses "gap".toList entries writeGap gap ∧
              text = Text.joined "; ".toList (columns ++ gap) := by
  cases readable : Directives.read config with
  | error fault =>
      change style config = .ok []
      rw [style, readable]
  | ok directives =>
      obtain ⟨entries, spells, rfl⟩ := Directives.spells_of_read readable
      refine ⟨entries, spells, ?_⟩
      rw [style, readable]
      rcases gapClause_cases spells with
        ⟨gap, cause, effective, incomputable, failed⟩ | ⟨computable, clauses, made, computed⟩
      · simp only [failed, Except.map]
        refine ⟨⟨fun _ => ⟨gap, effective, incomputable⟩, fun _ => ⟨cause, rfl⟩⟩, ?_⟩
        refine fun text => ⟨nofun, ?_⟩
        rintro ⟨computable, -⟩
        exact absurd incomputable (computable gap effective)
      · simp only [computed, Except.map]
        refine ⟨⟨nofun, ?_⟩, fun text => ⟨?_, ?_⟩⟩
        · rintro ⟨gap, effective, incomputable⟩
          exact absurd incomputable (computable gap effective)
        · rintro ⟨⟩
          exact ⟨computable, _, _, clauses_columnsClause spells, made, rfl⟩
        · rintro ⟨-, columns, gap, columnsMade, gapMade, rfl⟩
          rw [columnsMade.unique (clauses_columnsClause spells) spells, gapMade.unique made spells]

/-- Words win over settings, of several words the last one does, and any decimal digit counts. -/
example : style "gap-٣ cols-3 gap=9 cols=x cols-2".toList =
    .ok "grid-template-columns: repeat(2, 1fr); gap: 12px".toList := by decide +kernel

end Grid

end Mockup
