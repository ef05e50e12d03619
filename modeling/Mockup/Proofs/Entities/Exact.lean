import Mathlib.Data.List.Nodup
import Mockup.Proofs.Entities
import Mockup.Proofs.Text.Replace

/-!
# Exact escapes

Entities are put in by replacing one reserved character after the other, each in what the
replacements before it have left. Since ampersands are replaced first, no entity is escaped again,
and the replacements come to what each character is written as by itself.

What comes out is the only text of its kind. A text without any other reserved character than the
ampersand, in which each ampersand starts an entity, is escaped from exactly one text, the one that
a pass from the left reads from it. So escaping keeps all of a text, also of one that looks escaped
already.
-/

namespace Mockup.EntityTable

variable {table : EntityTable} {text written : Text}

/-- A text with the marks of an escaped one: of the reserved characters it holds ampersands only,
and each of these starts an entity. -/
structure IsEscaped (table : EntityTable) (text : Text) : Prop where
  absent : ∀ entry ∈ table, entry.1 ≠ '&' → entry.1 ∉ text
  encoded : Encoded (table.map Prod.snd) text

/-- A readable table with one entity for each reserved character and, ampersands apart, no reserved
character in an entity. -/
structure Canonical (table : EntityTable) : Prop extends Readable table where
  single : (table.map Prod.fst).Nodup
  hidden : ∀ entry ∈ table, entry.1 ≠ '&' → ∀ other ∈ table, entry.1 ∉ other.2

theorem canonical_jsx : jsx.Canonical where
  toReadable := readable_jsx
  single := by decide
  hidden := by decide

/-- Reserved characters can be replaced one after the other, as long as no entity holds a character
that is replaced later. -/
theorem escape_eq_replaceAll
    (ordered : table.Pairwise fun earlier later => later.1 ∉ earlier.2) (text : Text) :
    table.escape text = Text.replaceAll table text :=
  (Text.replaceAll_eq_flatMap ordered text).symm

theorem lookup_ne_none {entry : Char × Text} (listed : entry ∈ table) :
    table.lookup entry.1 ≠ none := by
  intro free
  have differs := List.lookup_eq_none_iff.1 free entry listed
  simp at differs

namespace IsEscaped

variable {character : Char} {rest : Text}

theorem tail (escaped : table.IsEscaped (character :: rest)) : table.IsEscaped rest where
  absent := by
    intro entry listed differs member
    exact escaped.absent entry listed differs (List.mem_cons_of_mem character member)
  encoded := escaped.encoded.2

theorem of_append {front : Text} (escaped : table.IsEscaped (front ++ rest)) :
    table.IsEscaped rest := by
  induction front with
  | nil => exact escaped
  | cons character front ih => exact ih escaped.tail

/-- Where no entity starts, no reserved character stands: an ampersand starts an entity, and the
others are absent. -/
theorem lookup_eq_none (escaped : table.IsEscaped (character :: rest))
    (free : ∀ entry ∈ table, ¬ entry.2 <+: character :: rest) :
    table.lookup character = none := by
  rw [List.lookup_eq_none_iff]
  intro entry listed
  rw [bne_iff_ne]
  rintro rfl
  by_cases ampersand : entry.1 = '&'
  · obtain ⟨entity, entered, start⟩ := escaped.encoded.1 ampersand
    obtain ⟨other, found, rfl⟩ := List.mem_map.1 entered
    exact free other found start
  · exact escaped.absent entry listed ampersand List.mem_cons_self

end IsEscaped

namespace Canonical

theorem escapeCharacter_eq {character : Char} {entity : Text} (canonical : table.Canonical)
    (listed : (character, entity) ∈ table) : table.escapeCharacter character = entity := by
  rcases table.escapeCharacter_cases character with ⟨free, -⟩ | ⟨other, found, same⟩
  · exact absurd free (lookup_ne_none listed)
  · have entries := List.inj_on_of_nodup_map canonical.single found listed rfl
    rw [same]
    exact congrArg Prod.snd entries

theorem isEscaped_escape (canonical : table.Canonical) (text : Text) :
    table.IsEscaped (table.escape text) where
  absent := by
    intro entry listed differs
    exact not_mem_escape (lookup_ne_none listed) (canonical.hidden entry listed differs) text
  encoded := by
    apply Encoded.escape canonical.toReadable
    intro entry listed
    exact List.mem_map_of_mem listed

/-- Escaping what is read from an escaped text gives that text back. -/
theorem escape_of_reads (canonical : table.Canonical) (reads : table.Reads written text)
    (escaped : table.IsEscaped written) : table.escape text = written := by
  induction reads with
  | nil => rfl
  | entity listed others ih =>
      rw [escape_cons, canonical.escapeCharacter_eq listed, ih escaped.of_append]
  | plain free others ih =>
      rw [escape_cons, ih escaped.tail, escapeCharacter, escaped.lookup_eq_none free]
      rfl

/-- A text is escaped to what has the marks of an escaped text and is read as it. -/
theorem escape_eq_iff (canonical : table.Canonical) :
    table.escape text = written ↔ table.IsEscaped written ∧ table.Reads written text := by
  constructor
  · rintro rfl
    exact ⟨canonical.isEscaped_escape text, canonical.toReadable.reads_escape text⟩
  · rintro ⟨escaped, reads⟩
    exact canonical.escape_of_reads reads escaped

end Canonical

/-- Texts in components are escaped by six replacements, one after the other. No angle bracket,
double quote or brace is left, and each ampersand starts one of the six entities. One pass over the
escaped text reads the text and nothing else, whatever the text looks like, and no other text with
the marks of an escaped one is read as it. The parts of a text are escaped each by itself. -/
theorem jsx_escape_exact (text : Text) :
    jsx.escape text = Text.replaceAll jsx text ∧
      (∀ character ∈ ['<', '>', '"', '\x7b', '\x7d'], character ∉ jsx.escape text) ∧
      Encoded ["&amp;".toList, "&lt;".toList, "&gt;".toList, "&quot;".toList, "&#123;".toList,
        "&#125;".toList] (jsx.escape text) ∧
      jsx.unescape (jsx.escape text) = text ∧
      (∀ read, jsx.Reads (jsx.escape text) read ↔ read = text) ∧
      (∀ written, jsx.escape text = written ↔ jsx.IsEscaped written ∧ jsx.Reads written text) ∧
      ∀ other, jsx.escape (text ++ other) = jsx.escape text ++ jsx.escape other := by
  have readable := canonical_jsx.toReadable
  have marks := canonical_jsx.isEscaped_escape text
  have unescaped := readable.unescape_escape text
  refine ⟨?_, ?_, marks.encoded, unescaped, ?_, ?_, ?_⟩
  · exact escape_eq_replaceAll (by decide) text
  · intro character member
    simp only [List.mem_cons, List.not_mem_nil, or_false] at member
    rcases member with rfl | rfl | rfl | rfl | rfl
    all_goals exact not_mem_escape (by decide) (by decide) text
  · intro read
    rw [← readable.unescape_eq_iff, unescaped]
    exact eq_comm
  · intro written
    exact canonical_jsx.escape_eq_iff
  · intro other
    exact escape_append jsx text other

/-- A text that holds an entity keeps it: its ampersand is escaped as well. -/
example : jsx.escape "&amp;lt;".toList = "&amp;amp;lt;".toList ∧
    jsx.unescape "&amp;amp;lt;".toList = "&amp;lt;".toList := by decide

end Mockup.EntityTable
