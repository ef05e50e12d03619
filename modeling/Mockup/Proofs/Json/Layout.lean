import Mathlib.Data.Nat.Digits.Lemmas
import Mockup.Json.Printer

/-!
# The layout of written JSON

`Json.Indented` says what JSON with one element a line looks like, without saying how it is written:
which characters stand for a string, how elements are set apart, and how far their lines are
indented. A value has exactly one such text, the one that is written for it.
-/

namespace Mockup.Json

/-- Four lower-case hexadecimal digits for a UTF-16 unit, the most significant one first. -/
structure SpellsUnit (unit : Nat) (digits : Text) : Prop where
  length_eq : digits.length = 4
  lower : ∀ digit ∈ digits, digit ∈ "0123456789abcdef".toList
  value : Nat.ofDigits 16 (digits.reverse.map "0123456789abcdef".toList.idxOf) = unit

/-- Characters with an escape of a single letter. -/
def shortEscapes : List (Char × Char) :=
  [('"', '"'), ('\\', '\\'), ('\n', 'n'), ('\r', 'r'), ('\t', 't'), ('\x08', 'b'), ('\x0c', 'f')]

/-- What may stand for a character in a string. -/
inductive SpellsCharacter (character : Char) : Text → Prop where
  | plain (printable : 0x20 ≤ character.toNat ∧ character.toNat ≤ 0x7E)
      (unlisted : ∀ letter, (character, letter) ∉ shortEscapes) :
      SpellsCharacter character [character]
  | short {letter : Char} (listed : (character, letter) ∈ shortEscapes) :
      SpellsCharacter character ['\\', letter]
  | unit {digits : Text} (unprintable : character.toNat < 0x20 ∨ 0x7E < character.toNat)
      (unlisted : ∀ letter, (character, letter) ∉ shortEscapes)
      (spells : SpellsUnit character.toNat digits) :
      SpellsCharacter character ('\\' :: 'u' :: digits)
  /-- A character beyond the range of one unit is written as two of them. -/
  | pair {high low : Nat} {front back : Text} (highRange : 0xD800 ≤ high ∧ high < 0xDC00)
      (lowRange : 0xDC00 ≤ low ∧ low < 0xE000)
      (code : character.toNat = 0x10000 + (high - 0xD800) * 0x400 + (low - 0xDC00))
      (first : SpellsUnit high front) (second : SpellsUnit low back) :
      SpellsCharacter character ('\\' :: 'u' :: front ++ '\\' :: 'u' :: back)

/-- A string with the given content. -/
def SpellsString (content text : Text) : Prop :=
  ∃ parts, List.Forall₂ SpellsCharacter content parts ∧ text = '"' :: parts.flatten ++ ['"']

mutual

/-- The text of a value that starts on a line of the given nesting level. -/
inductive Indented : Nat → Json → Text → Prop where
  | null {level : Nat} : Indented level .null "null".toList
  | bool {level : Nat} {value : Bool} : Indented level (.bool value) (toString value).toList
  | number {level : Nat} {value : Int} : Indented level (.number value) (toString value).toList
  | string {level : Nat} {content text : Text} (spells : SpellsString content text) :
      Indented level (.string content) text
  | emptyArray {level : Nat} : Indented level (.array []) "[]".toList
  | array {level : Nat} {elements : List Json} {text : Text}
      (lines : IndentedElements (level + 1) elements text) :
      Indented level (.array elements)
        ('[' :: text ++ '\n' :: List.replicate (2 * level) ' ' ++ [']'])
  | emptyObject {level : Nat} : Indented level (.object []) "\x7b\x7d".toList
  | object {level : Nat} {members : List (Text × Json)} {text : Text}
      (lines : IndentedMembers (level + 1) members text) :
      Indented level (.object members)
        ('\x7b' :: text ++ '\n' :: List.replicate (2 * level) ' ' ++ ['\x7d'])

/-- Elements that start on lines of their own, with a comma behind each but the last. -/
inductive IndentedElements : Nat → List Json → Text → Prop where
  | last {level : Nat} {value : Json} {text : Text} (element : Indented level value text) :
      IndentedElements level [value] ('\n' :: List.replicate (2 * level) ' ' ++ text)
  | cons {level : Nat} {value : Json} {values : List Json} {text others : Text}
      (element : Indented level value text) (rest : IndentedElements level values others) :
      IndentedElements level (value :: values)
        ('\n' :: List.replicate (2 * level) ' ' ++ text ++ ',' :: others)

/-- Members that start on lines of their own, with a comma behind each but the last. -/
inductive IndentedMembers : Nat → List (Text × Json) → Text → Prop where
  | last {level : Nat} {name : Text} {value : Json} {key text : Text}
      (named : SpellsString name key) (member : Indented level value text) :
      IndentedMembers level [(name, value)]
        ('\n' :: List.replicate (2 * level) ' ' ++ (key ++ ':' :: ' ' :: text))
  | cons {level : Nat} {name : Text} {value : Json} {members : List (Text × Json)}
      {key text others : Text} (named : SpellsString name key)
      (member : Indented level value text) (rest : IndentedMembers level members others) :
      IndentedMembers level ((name, value) :: members)
        ('\n' :: List.replicate (2 * level) ' ' ++ (key ++ ':' :: ' ' :: text) ++ ',' :: others)

end

/-! ## What is written -/

theorem hexDigit_mem_and_idxOf : ∀ value < 16,
    Text.hexDigit value ∈ "0123456789abcdef".toList ∧
      "0123456789abcdef".toList.idxOf (Text.hexDigit value) = value := by
  decide

theorem hexDigit_idxOf : ∀ digit ∈ "0123456789abcdef".toList,
    "0123456789abcdef".toList.idxOf digit < 16 ∧
      Text.hexDigit ("0123456789abcdef".toList.idxOf digit) = digit := by
  rw [← List.forall_iff_forall_mem]
  decide

theorem hexDigits_four (unit : Nat) :
    Text.hexDigits 4 unit =
      [Text.hexDigit (unit / 4096 % 16), Text.hexDigit (unit / 256 % 16),
        Text.hexDigit (unit / 16 % 16), Text.hexDigit (unit % 16)] := by
  simp [Text.hexDigits, Nat.div_div_eq_div_mul]

theorem spellsUnit_iff {unit : Nat} (small : unit < 0x10000) {digits : Text} :
    SpellsUnit unit digits ↔ digits = Text.hexDigits 4 unit := by
  rw [hexDigits_four]
  constructor
  · rintro ⟨length_eq, lower, value⟩
    match digits, length_eq with
    | [first, second, third, fourth], _ =>
      simp only [List.forall_mem_cons, List.not_mem_nil, false_implies, implies_true,
        and_true] at lower
      obtain ⟨small₁, same₁⟩ := hexDigit_idxOf first lower.1
      obtain ⟨small₂, same₂⟩ := hexDigit_idxOf second lower.2.1
      obtain ⟨small₃, same₃⟩ := hexDigit_idxOf third lower.2.2.1
      obtain ⟨small₄, same₄⟩ := hexDigit_idxOf fourth lower.2.2.2
      simp only [List.reverse_cons, List.reverse_nil, List.nil_append, List.cons_append,
        List.map_cons, List.map_nil, Nat.ofDigits_cons, Nat.ofDigits_nil] at value
      generalize "0123456789abcdef".toList.idxOf first = digit₁ at *
      generalize "0123456789abcdef".toList.idxOf second = digit₂ at *
      generalize "0123456789abcdef".toList.idxOf third = digit₃ at *
      generalize "0123456789abcdef".toList.idxOf fourth = digit₄ at *
      rw [← same₁, ← same₂, ← same₃, ← same₄]
      congr 5 <;> omega
  · rintro rfl
    have digit := fun place => hexDigit_mem_and_idxOf (unit / place % 16) (Nat.mod_lt _ (by decide))
    have last := hexDigit_mem_and_idxOf (unit % 16) (Nat.mod_lt _ (by decide))
    refine ⟨rfl, by simp [-String.reduceToList, digit, last], ?_⟩
    simp only [List.reverse_cons, List.reverse_nil, List.nil_append, List.cons_append,
      List.map_cons, List.map_nil, Nat.ofDigits_cons, Nat.ofDigits_nil, digit, last]
    omega

theorem SpellsUnit.lt {unit : Nat} {digits : Text} (spells : SpellsUnit unit digits) :
    unit < 0x10000 := by
  have below : ∀ digit ∈ digits.reverse.map "0123456789abcdef".toList.idxOf, digit < 16 := by
    intro digit member
    obtain ⟨letter, listed, rfl⟩ := List.mem_map.1 member
    exact (hexDigit_idxOf letter (spells.lower letter (List.mem_reverse.1 listed))).1
  have bound := Nat.ofDigits_lt_base_pow_length (by decide) below
  rwa [spells.value, List.length_map, List.length_reverse, spells.length_eq] at bound

theorem SpellsUnit.eq_unitEscape {unit : Nat} {digits : Text} (spells : SpellsUnit unit digits) :
    '\\' :: 'u' :: digits = unitEscape unit := by
  rw [unitEscape, (spellsUnit_iff spells.lt).1 spells]

theorem spellsUnit_hexDigits {unit : Nat} (small : unit < 0x10000) :
    SpellsUnit unit (Text.hexDigits 4 unit) :=
  (spellsUnit_iff small).2 rfl

theorem writeCharacter_of_mem {character letter : Char}
    (listed : (character, letter) ∈ shortEscapes) : writeCharacter character = ['\\', letter] := by
  simp only [shortEscapes, List.mem_cons, Prod.mk.injEq, List.not_mem_nil, or_false] at listed
  rcases listed with ⟨rfl, rfl⟩ | ⟨rfl, rfl⟩ | ⟨rfl, rfl⟩ | ⟨rfl, rfl⟩ | ⟨rfl, rfl⟩ | ⟨rfl, rfl⟩ |
    ⟨rfl, rfl⟩ <;> rfl

theorem writeCharacter_of_not_mem {character : Char}
    (unlisted : ∀ letter, (character, letter) ∉ shortEscapes) :
    writeCharacter character =
      if 0x20 ≤ character.toNat ∧ character.toNat < 0x7F then [character]
      else if character.toNat < 0x10000 then unitEscape character.toNat
      else
        unitEscape (0xD800 + (character.toNat - 0x10000) / 0x400) ++
          unitEscape (0xDC00 + (character.toNat - 0x10000) % 0x400) := by
  have differs : ∀ other letter, (other, letter) ∈ shortEscapes → character ≠ other := by
    rintro other letter listed rfl
    exact unlisted letter listed
  have backspace : character.toNat ≠ 0x08 := fun same =>
    differs '\x08' 'b' (by decide) (Char.toNat_inj.1 same)
  have formFeed : character.toNat ≠ 0x0C := fun same =>
    differs '\x0c' 'f' (by decide) (Char.toNat_inj.1 same)
  rw [writeCharacter, if_neg (differs '"' '"' (by decide)), if_neg (differs '\\' '\\' (by decide)),
    if_neg (differs '\n' 'n' (by decide)), if_neg (differs '\r' 'r' (by decide)),
    if_neg (differs '\t' 't' (by decide)), if_neg backspace, if_neg formFeed]

theorem toNat_lt_of_mem_shortEscapes {character letter : Char}
    (listed : (character, letter) ∈ shortEscapes) : character.toNat < 0x7F := by
  have small : ∀ escape ∈ shortEscapes, escape.1.toNat < 0x7F := by decide
  exact small _ listed

theorem toNat_lt (character : Char) : character.toNat < 0x110000 := by
  rcases character.valid with small | ⟨-, small⟩
  · exact Nat.lt_trans small (by decide)
  · exact small

theorem spellsCharacter_iff {character : Char} {text : Text} :
    SpellsCharacter character text ↔ text = writeCharacter character := by
  constructor
  · intro spells
    cases spells with
    | plain printable unlisted =>
      rw [writeCharacter_of_not_mem unlisted, if_pos (by omega)]
    | short listed => exact (writeCharacter_of_mem listed).symm
    | unit unprintable unlisted spells =>
      rw [writeCharacter_of_not_mem unlisted, if_neg (by omega), if_pos spells.lt,
        spells.eq_unitEscape]
    | @pair high low _ _ highRange lowRange code first second =>
      have unlisted : ∀ letter, (character, letter) ∉ shortEscapes := by
        intro letter listed
        have small := toNat_lt_of_mem_shortEscapes listed
        omega
      have front : 0xD800 + (character.toNat - 0x10000) / 0x400 = high := by omega
      have back : 0xDC00 + (character.toNat - 0x10000) % 0x400 = low := by omega
      rw [writeCharacter_of_not_mem unlisted, if_neg (by omega), if_neg (by omega), front, back,
        ← first.eq_unitEscape, ← second.eq_unitEscape]
  · rintro rfl
    by_cases listed : ∃ letter, (character, letter) ∈ shortEscapes
    · obtain ⟨letter, listed⟩ := listed
      rw [writeCharacter_of_mem listed]
      exact .short listed
    have unlisted := not_exists.1 listed
    rw [writeCharacter_of_not_mem unlisted]
    split
    case isTrue printable => exact .plain (by omega) unlisted
    case isFalse unprintable =>
      split
      case isTrue small => exact .unit (by omega) unlisted (spellsUnit_hexDigits small)
      case isFalse large =>
        have bound : character.toNat < 0x110000 := toNat_lt character
        exact .pair (by omega) (by omega) (by omega) (spellsUnit_hexDigits (by omega))
          (spellsUnit_hexDigits (by omega))

theorem spellsString_iff {content text : Text} :
    SpellsString content text ↔ text = writeString content := by
  have relation : SpellsCharacter = fun character part => writeCharacter character = part := by
    funext character part
    exact propext (spellsCharacter_iff.trans eq_comm)
  have parts : ∀ parts, List.Forall₂ SpellsCharacter content parts ↔
      content.map writeCharacter = parts := by
    intro parts
    rw [relation, ← List.forall₂_map_left_iff, List.forall₂_eq_eq_eq]
  simp [SpellsString, parts, writeString, List.flatMap]

/-- Lines set apart by commas. -/
theorem newLine_joined_cons (level : Nat) (first second : Text) (more : List Text) :
    newLine level ++ Text.joined (',' :: newLine level) (first :: second :: more) =
      newLine level ++ first ++
        ',' :: (newLine level ++ Text.joined (',' :: newLine level) (second :: more)) := by
  simp [Text.joined, List.intercalate_cons_cons]

theorem newLine_joined_singleton (level : Nat) (only : Text) :
    newLine level ++ Text.joined (',' :: newLine level) [only] = newLine level ++ only := by
  simp [Text.joined]

theorem enclose_cons (opening closing : Char) (level : Nat) (first : Text) (more : List Text) :
    enclose opening closing level (first :: more) =
      opening :: (newLine (level + 1) ++
        Text.joined (',' :: newLine (level + 1)) (first :: more)) ++ newLine level ++ [closing] :=
  rfl

theorem toList_toString (value : Int) : (toString value).toList = Text.ofInt value := by
  cases value <;> simp [Text.ofInt, Text.ofNat, Int.repr, Nat.repr]

mutual

/-- A value has exactly one text with one element a line. -/
theorem indented_iff (value : Json) (level : Nat) (text : Text) :
    Indented level value text ↔ text = value.writeIndented level := by
  cases value with
  | null =>
    constructor
    · rintro ⟨⟩
      rfl
    · rintro rfl
      exact .null
  | bool value =>
    have written : (Json.bool value).writeIndented level = (toString value).toList := by
      cases value <;> rfl
    rw [written]
    constructor
    · rintro ⟨⟩
      rfl
    · rintro rfl
      exact .bool
  | number value =>
    rw [writeIndented, ← toList_toString]
    constructor
    · rintro ⟨⟩
      rfl
    · rintro rfl
      exact .number
  | string content =>
    rw [writeIndented, ← spellsString_iff]
    constructor
    · rintro ⟨⟩
      assumption
    · exact .string
  | array elements =>
    cases elements with
    | nil =>
      constructor
      · intro indented
        cases indented with
        | emptyArray => rfl
        | array lines => cases lines
      · rintro rfl
        exact .emptyArray
    | cons first more =>
      have lines := fun text =>
        indentedElements_iff (first :: more) (level + 1) text (List.cons_ne_nil first more)
      rw [writeIndented, indentedElements, enclose_cons]
      constructor
      · intro indented
        cases indented with
        | array written =>
          rw [(lines _).1 written]
          rfl
      · rintro rfl
        exact .array ((lines _).2 rfl)
  | object members =>
    cases members with
    | nil =>
      constructor
      · intro indented
        cases indented with
        | emptyObject => rfl
        | object lines => cases lines
      · rintro rfl
        exact .emptyObject
    | cons first more =>
      have lines := fun text =>
        indentedMembers_iff (first :: more) (level + 1) text (List.cons_ne_nil first more)
      rw [writeIndented, indentedMembers, enclose_cons]
      constructor
      · intro indented
        cases indented with
        | object written =>
          rw [(lines _).1 written]
          rfl
      · rintro rfl
        exact .object ((lines _).2 rfl)

theorem indentedElements_iff (elements : List Json) (level : Nat) (text : Text)
    (filled : elements ≠ []) :
    IndentedElements level elements text ↔
      text = newLine level ++
        Text.joined (',' :: newLine level) (indentedElements level elements) := by
  cases elements with
  | nil => exact absurd rfl filled
  | cons first more =>
    have element := indented_iff first level
    cases more with
    | nil =>
      rw [indentedElements, indentedElements, newLine_joined_singleton]
      constructor
      · intro lines
        cases lines with
        | last written =>
          rw [(element _).1 written]
          rfl
        | cons _ rest => cases rest
      · rintro rfl
        exact .last ((element _).2 rfl)
    | cons second more =>
      rw [indentedElements, indentedElements, newLine_joined_cons]
      have rest := fun text =>
        indentedElements_iff (second :: more) level text (List.cons_ne_nil second more)
      constructor
      · intro lines
        cases lines with
        | cons written others =>
          rw [(element _).1 written, (rest _).1 others]
          rfl
      · rintro rfl
        exact .cons ((element _).2 rfl) ((rest _).2 rfl)

theorem indentedMembers_iff (members : List (Text × Json)) (level : Nat) (text : Text)
    (filled : members ≠ []) :
    IndentedMembers level members text ↔
      text = newLine level ++
        Text.joined (',' :: newLine level) (indentedMembers level members) := by
  cases members with
  | nil => exact absurd rfl filled
  | cons first more =>
    obtain ⟨name, value⟩ := first
    have member := indented_iff value level
    cases more with
    | nil =>
      rw [indentedMembers, indentedMembers, newLine_joined_singleton]
      constructor
      · intro lines
        cases lines with
        | last named written =>
          rw [spellsString_iff.1 named, (member _).1 written]
          rfl
        | cons _ _ rest => cases rest
      · rintro rfl
        exact .last (spellsString_iff.2 rfl) ((member _).2 rfl)
    | cons second more =>
      obtain ⟨secondName, second⟩ := second
      rw [indentedMembers, indentedMembers, newLine_joined_cons]
      have rest := fun text =>
        indentedMembers_iff ((secondName, second) :: more) level text (List.cons_ne_nil _ more)
      constructor
      · intro lines
        cases lines with
        | cons named written others =>
          rw [spellsString_iff.1 named, (member _).1 written, (rest _).1 others]
          rfl
      · rintro rfl
        exact .cons (spellsString_iff.2 rfl) ((member _).2 rfl) ((rest _).2 rfl)

end

theorem indented_pretty (value : Json) : Indented 0 value value.pretty :=
  (indented_iff value 0 _).2 rfl

end Mockup.Json
