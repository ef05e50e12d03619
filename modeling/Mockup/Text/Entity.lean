import Mockup.Text.Basic

/-!
# Character entities

A markup language keeps a few characters for itself and writes them as entities where they are
meant as text. An `EntityTable` lists them; `escape` writes a text with a table, and `unescape`
reads it back in one pass from left to right.
-/

namespace Mockup

/-- The reserved characters of a markup language, each with the entity that stands for it. -/
abbrev EntityTable := List (Char × Text)

namespace EntityTable

/-- The entities of HTML text and attribute values. -/
def html : EntityTable :=
  [('&', "&amp;".toList), ('<', "&lt;".toList), ('>', "&gt;".toList), ('"', "&quot;".toList),
    ('\'', "&#x27;".toList)]

/-- The entities of JSX text and attribute values; braces are reserved, single quotes are not. -/
def jsx : EntityTable :=
  [('&', "&amp;".toList), ('<', "&lt;".toList), ('>', "&gt;".toList), ('"', "&quot;".toList),
    ('\x7b', "&#123;".toList), ('\x7d', "&#125;".toList)]

/-- A character as it is written: its entity if it is reserved, itself otherwise. -/
def escapeCharacter (table : EntityTable) (character : Char) : Text :=
  (table.lookup character).getD [character]

/-- A text with its reserved characters written as entities. -/
def escape (table : EntityTable) (text : Text) : Text :=
  text.flatMap table.escapeCharacter

/-- The character whose entity a text starts with, and what follows the entity. -/
def readEntity? (table : EntityTable) (text : Text) : Option (Char × Text) :=
  table.findSome? fun (character, entity) =>
    (Text.after? entity text).map fun rest => (character, rest)

/-- Reads `fuel` characters, entities counting as one. -/
def unescapeUpTo (table : EntityTable) : (fuel : Nat) → Text → Text
  | 0, text => text
  | _ + 1, [] => []
  | fuel + 1, character :: rest =>
    match table.readEntity? (character :: rest) with
    | some (reserved, rest) => reserved :: table.unescapeUpTo fuel rest
    | none => character :: table.unescapeUpTo fuel rest

/-- The text that an escaped text stands for. -/
def unescape (table : EntityTable) (text : Text) : Text :=
  table.unescapeUpTo text.length text

@[simp] theorem escape_nil (table : EntityTable) : table.escape [] = [] := rfl

@[simp] theorem escape_append (table : EntityTable) (first second : Text) :
    table.escape (first ++ second) = table.escape first ++ table.escape second := by
  simp [escape]

end EntityTable

end Mockup
