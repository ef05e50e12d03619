import Mockup.Text.Entity
import Mockup.Text.Split

/-!
# Escaped text

What a text looks like after its reserved characters have been written as entities: a reserved
character that stands in no entity is gone, and an ampersand is never there for itself. Both follow
from what each single character is written as. If the entities can be told apart, nothing is lost:
reading an escaped text gives the text back.
-/

namespace Mockup.EntityTable

variable {table : EntityTable}

/-- None of the characters is reserved. -/
def Plain (table : EntityTable) (text : Text) : Prop :=
  ∀ character ∈ text, table.lookup character = none

instance (table : EntityTable) (text : Text) : Decidable (table.Plain text) :=
  decidable_of_iff (text.all fun character => (table.lookup character).isNone) (by simp [Plain])

/-- Every ampersand is the start of one of the entities. -/
def Encoded (entities : List Text) : Text → Prop
  | [] => True
  | character :: rest =>
      (character = '&' → ∃ entity ∈ entities, entity <+: character :: rest) ∧
        Encoded entities rest

/-- A table whose entities can be told apart: an ampersand is reserved, each entity has one at its
start and nowhere else, and none is the start of another one. -/
structure Readable (table : EntityTable) : Prop where
  reserved : table.lookup '&' ≠ none
  ampersand : ∀ entry ∈ table, entry.2.head? = some '&' ∧ '&' ∉ entry.2.tail
  apart : ∀ first ∈ table, ∀ second ∈ table, first.2 <+: second.2 → first = second

/-- A character is written as itself or as the entity that the table has for it. -/
theorem escapeCharacter_cases (table : EntityTable) (character : Char) :
    (table.lookup character = none ∧ table.escapeCharacter character = [character]) ∨
      ∃ entity, (character, entity) ∈ table ∧ table.escapeCharacter character = entity := by
  rw [escapeCharacter]
  cases found : table.lookup character with
  | none => exact .inl ⟨rfl, rfl⟩
  | some entity =>
      obtain ⟨front, rest, split, -⟩ := List.lookup_eq_some_iff.1 found
      exact .inr ⟨entity, by simp [split], rfl⟩

theorem escape_cons (character : Char) (text : Text) :
    table.escape (character :: text) = table.escapeCharacter character ++ table.escape text :=
  List.flatMap_cons

/-- A reserved character does not stand in an escaped text, unless it stands in an entity. -/
theorem not_mem_escape {character : Char} (reserved : table.lookup character ≠ none)
    (absent : ∀ entry ∈ table, character ∉ entry.2) (text : Text) :
    character ∉ table.escape text := by
  intro member
  obtain ⟨original, -, written⟩ := List.mem_flatMap.1 member
  rcases table.escapeCharacter_cases original with ⟨free, same⟩ | ⟨entity, entry, same⟩
  · rw [same, List.mem_singleton] at written
    rw [written] at reserved
    exact reserved free
  · rw [same] at written
    exact absent _ entry written

/-- Reserved characters are kept out by any test that they fail. -/
theorem plain_of_all {accepts : Char → Bool} (refused : ∀ entry ∈ table, accepts entry.1 = false)
    {text : Text} (accepted : ∀ character ∈ text, accepts character = true) : table.Plain text := by
  intro character member
  rw [List.lookup_eq_none_iff]
  intro entry listed
  rw [bne_iff_ne]
  intro same
  have passed := accepted character member
  rw [same, refused entry listed] at passed
  cases passed

theorem Plain.append {first second : Text} (front : table.Plain first) (rest : table.Plain second) :
    table.Plain (first ++ second) :=
  List.forall_mem_append.2 ⟨front, rest⟩

theorem Plain.joined {separator : Text} {texts : List Text} (between : table.Plain separator)
    (plain : ∀ text ∈ texts, table.Plain text) : table.Plain (Text.joined separator texts) := by
  induction texts with
  | nil => exact List.forall_mem_nil _
  | cons text texts ih =>
      obtain ⟨first, others⟩ := List.forall_mem_cons.1 plain
      cases texts with
      | nil =>
          rw [Text.joined, List.intercalate_singleton]
          exact first
      | cons next texts =>
          rw [Text.joined, List.intercalate_cons_cons]
          exact (first.append between).append (ih others)

/-- Nothing changes in a text without reserved characters. -/
theorem escape_of_plain {text : Text} (plain : table.Plain text) : table.escape text = text := by
  induction text with
  | nil => rfl
  | cons character text ih =>
      obtain ⟨free, others⟩ := List.forall_mem_cons.1 plain
      rw [escape_cons, ih others, escapeCharacter, free]
      rfl

theorem readable_html : html.Readable where
  reserved := by decide
  ampersand := by decide
  apart := by decide

theorem readable_jsx : jsx.Readable where
  reserved := by decide
  ampersand := by decide
  apart := by decide

theorem Readable.spelled {character : Char} {entity : Text} (readable : table.Readable)
    (entry : (character, entity) ∈ table) : ∃ name, entity = '&' :: name ∧ '&' ∉ name := by
  obtain ⟨start, unique⟩ := readable.ampersand _ entry
  obtain ⟨name, same⟩ := List.head?_eq_some_iff.1 start
  change entity = '&' :: name at same
  subst same
  exact ⟨name, rfl, unique⟩

namespace Encoded

variable {entities : List Text}

theorem append_of_not_mem {front rest : Text} (free : '&' ∉ front)
    (encoded : Encoded entities rest) : Encoded entities (front ++ rest) := by
  induction front with
  | nil => exact encoded
  | cons character front ih =>
      rw [List.mem_cons, not_or] at free
      exact ⟨fun same => absurd same.symm free.1, ih free.2⟩

/-- An escaped text is encoded by the entities of a table that is readable. -/
theorem escape (readable : table.Readable) (listed : ∀ entry ∈ table, entry.2 ∈ entities)
    (text : Text) : Encoded entities (table.escape text) := by
  induction text with
  | nil => trivial
  | cons character text ih =>
      rw [escape_cons]
      rcases table.escapeCharacter_cases character with ⟨free, same⟩ | ⟨entity, entry, same⟩
      · rw [same]
        apply append_of_not_mem _ ih
        intro member
        cases List.mem_singleton.1 member
        exact readable.reserved free
      · obtain ⟨name, rfl, unique⟩ := readable.spelled entry
        rw [same]
        exact ⟨fun _ => ⟨_, listed _ entry, List.prefix_append _ _⟩, append_of_not_mem unique ih⟩

end Encoded

/-! ## Reading entities -/

theorem readEntity?_eq_none_iff {text : Text} :
    table.readEntity? text = none ↔ ∀ entry ∈ table, ¬ entry.2 <+: text := by
  rw [readEntity?, List.findSome?_eq_none_iff]
  constructor
  · rintro missed entry listed ⟨rest, rfl⟩
    have read := missed entry listed
    simp only [Text.after?_append, Option.map_some, reduceCtorEq] at read
  · intro missed entry listed
    rw [Option.map_eq_none_iff, Option.eq_none_iff_forall_ne_some]
    intro rest start
    rw [Text.after?_eq_some_iff] at start
    exact missed entry listed ⟨rest, start.symm⟩

/-- The entity that is read stands at the start of the text. -/
theorem exists_entity_of_readEntity? {character : Char} {text rest : Text}
    (read : table.readEntity? text = some (character, rest)) :
    ∃ entity, (character, entity) ∈ table ∧ text = entity ++ rest := by
  obtain ⟨entry, listed, found⟩ := List.exists_of_findSome?_eq_some read
  obtain ⟨behind, start, same⟩ := Option.map_eq_some_iff.1 found
  cases same
  exact ⟨entry.2, listed, Text.after?_eq_some_iff.1 start⟩

/-- One pass over a text from the left. Where an entity starts, its character is read and the pass
goes on behind the entity; where none does, a character is read as itself. -/
inductive Reads (table : EntityTable) : Text → Text → Prop where
  | nil : Reads table [] []
  | entity {character : Char} {entity rest text : Text} (listed : (character, entity) ∈ table)
      (others : Reads table rest text) : Reads table (entity ++ rest) (character :: text)
  | plain {character : Char} {rest text : Text}
      (free : ∀ entry ∈ table, ¬ entry.2 <+: character :: rest)
      (others : Reads table rest text) : Reads table (character :: rest) (character :: text)

namespace Readable

variable {character : Char} {entity text written : Text}

/-- Of two entities that the same text starts with, one is the start of the other. -/
theorem readEntity?_append (readable : table.Readable) (listed : (character, entity) ∈ table)
    (rest : Text) : table.readEntity? (entity ++ rest) = some (character, rest) := by
  cases read : table.readEntity? (entity ++ rest) with
  | none =>
      have missed := readEntity?_eq_none_iff.1 read _ listed
      exact absurd (List.prefix_append entity rest) missed
  | some found =>
      obtain ⟨reserved, behind⟩ := found
      obtain ⟨other, entry, split⟩ := exists_entity_of_readEntity? read
      have same : (reserved, other) = (character, entity) := by
        rcases List.prefix_or_prefix_of_prefix ⟨behind, split.symm⟩ ⟨rest, rfl⟩ with
          shorter | longer
        · exact readable.apart _ entry _ listed shorter
        · exact (readable.apart _ listed _ entry longer).symm
      cases same
      rw [List.append_cancel_left split]

/-- No entity starts at a character that is not reserved. -/
theorem not_prefix_cons (readable : table.Readable) (free : table.lookup character = none)
    (rest : Text) : ∀ entry ∈ table, ¬ entry.2 <+: character :: rest := by
  intro entry listed start
  obtain ⟨name, spelled, -⟩ := readable.spelled listed
  rw [spelled, List.cons_prefix_cons] at start
  rw [← start.1] at free
  exact readable.reserved free

/-- An entity has at least its ampersand, so that less than before is left behind it. -/
theorem length_lt_append (readable : table.Readable) (listed : (character, entity) ∈ table)
    (rest : Text) : rest.length < (entity ++ rest).length := by
  obtain ⟨name, rfl, -⟩ := readable.spelled listed
  rw [List.cons_append, List.length_cons, List.length_append]
  omega

theorem unescapeUpTo_append (readable : table.Readable) (listed : (character, entity) ∈ table)
    (fuel : Nat) (rest : Text) :
    table.unescapeUpTo (fuel + 1) (entity ++ rest) =
      character :: table.unescapeUpTo fuel rest := by
  have read := readable.readEntity?_append listed rest
  obtain ⟨name, rfl, -⟩ := readable.spelled listed
  rw [List.cons_append] at read ⊢
  rw [unescapeUpTo, read]

theorem reads_unescapeUpTo (readable : table.Readable) {fuel : Nat}
    (enough : written.length ≤ fuel) : table.Reads written (table.unescapeUpTo fuel written) := by
  induction fuel generalizing written with
  | zero =>
      rw [List.eq_nil_of_length_eq_zero (Nat.le_zero.1 enough)]
      exact .nil
  | succ fuel ih =>
      cases written with
      | nil => exact .nil
      | cons character rest =>
          rw [unescapeUpTo]
          split
          next reserved behind read =>
            obtain ⟨entity, listed, split⟩ := exists_entity_of_readEntity? read
            have shorter := readable.length_lt_append listed behind
            rw [split] at enough ⊢
            exact .entity listed (ih (Nat.le_of_lt_succ (Nat.lt_of_lt_of_le shorter enough)))
          next read =>
            exact .plain (readEntity?_eq_none_iff.1 read) (ih (Nat.le_of_succ_le_succ enough))

theorem unescapeUpTo_eq_of_reads (readable : table.Readable) (reads : table.Reads written text)
    {fuel : Nat} (enough : written.length ≤ fuel) : table.unescapeUpTo fuel written = text := by
  induction reads generalizing fuel with
  | nil => cases fuel <;> rfl
  | @entity character entity rest text listed others ih =>
      have shorter := readable.length_lt_append listed rest
      cases fuel with
      | zero => omega
      | succ fuel => rw [readable.unescapeUpTo_append listed, ih (by omega)]
  | plain free others ih =>
      cases fuel with
      | zero => cases enough
      | succ fuel =>
          rw [unescapeUpTo, readEntity?_eq_none_iff.2 free]
          exact congrArg _ (ih (Nat.le_of_succ_le_succ enough))

/-- What a text stands for is what one pass reads from it. -/
theorem unescape_eq_iff (readable : table.Readable) :
    table.unescape written = text ↔ table.Reads written text := by
  constructor
  · rintro rfl
    exact readable.reads_unescapeUpTo (Nat.le_refl _)
  · intro reads
    exact readable.unescapeUpTo_eq_of_reads reads (Nat.le_refl _)

theorem reads_escape (readable : table.Readable) (text : Text) :
    table.Reads (table.escape text) text := by
  induction text with
  | nil => exact .nil
  | cons character text ih =>
      rw [escape_cons]
      rcases table.escapeCharacter_cases character with ⟨free, same⟩ | ⟨entity, listed, same⟩
      · rw [same, List.singleton_append]
        exact .plain (readable.not_prefix_cons free _) ih
      · rw [same]
        exact .entity listed ih

/-- Reading an escaped text gives the text back. -/
theorem unescape_escape (readable : table.Readable) (text : Text) :
    table.unescape (table.escape text) = text :=
  readable.unescape_eq_iff.2 (readable.reads_escape text)

end Readable

end Mockup.EntityTable
