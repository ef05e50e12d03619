import Mockup.Html.Preview
import Mockup.Proofs.Inline
import Mockup.Proofs.Jsx.Grammar

/-!
# What rendered inline text shows

A reader of markup sees what is left of it when its tags are taken out and its entities are read.
Previews and components write inline nodes with different tags and different entities, and show the
same of them: their contents one after the other. No content can be taken for a tag, since the
bracket that starts a tag is written as an entity; so markup shows what its parts show, and one
lemma for a text and one for a tag are enough.

Of a text that is read as inline nodes, both show all but the delimiters of the emphases in it.
-/

namespace Mockup

/-- A text of markup without its tags, each of which runs from an opening bracket to the next
closing one. `inside` says whether the text starts in a tag. -/
def Text.withoutTags (inside : Bool) : Text → Text
  | [] => []
  | character :: rest =>
    if inside then withoutTags (character ≠ '>') rest
    else if character = '<' then withoutTags true rest
    else character :: withoutTags false rest

namespace EntityTable

/-- What a reader of a text of markup sees. -/
def shown (table : EntityTable) (markup : Text) : Text :=
  table.unescape (Text.withoutTags false markup)

/-- The bracket that starts a tag is reserved, and no entity holds it. -/
structure HidesTags (table : EntityTable) : Prop where
  reserved : table.lookup '<' ≠ none
  absent : ∀ entry ∈ table, '<' ∉ entry.2

theorem hidesTags_html : html.HidesTags := ⟨by decide, by decide⟩

theorem hidesTags_jsx : jsx.HidesTags := ⟨by decide, by decide⟩

/-- Markup in which a content is all there is besides tags, whatever stands behind it. -/
def Shows (table : EntityTable) (markup content : Text) : Prop :=
  ∀ rest, Text.withoutTags false (markup ++ rest) =
    table.escape content ++ Text.withoutTags false rest

variable {table : EntityTable} {markup content : Text}

theorem withoutTags_append {front : Text} (free : '<' ∉ front) (rest : Text) :
    Text.withoutTags false (front ++ rest) = front ++ Text.withoutTags false rest := by
  induction front with
  | nil => rfl
  | cons character front ih =>
      obtain ⟨differs, free⟩ := List.ne_and_not_mem_of_not_mem_cons free
      simp [Text.withoutTags, Ne.symm differs, ih free]

theorem withoutTags_tag {inside : Text} (free : '>' ∉ inside) (rest : Text) :
    Text.withoutTags true (inside ++ '>' :: rest) = Text.withoutTags false rest := by
  induction inside with
  | nil => simp [Text.withoutTags]
  | cons character inside ih =>
      obtain ⟨differs, free⟩ := List.ne_and_not_mem_of_not_mem_cons free
      simp [Text.withoutTags, Ne.symm differs, ih free]

namespace Shows

theorem nil : table.Shows [] [] := fun _ => rfl

theorem append {more others : Text} (first : table.Shows markup content)
    (second : table.Shows more others) : table.Shows (markup ++ more) (content ++ others) := by
  intro rest
  rw [List.append_assoc, first, second, escape_append, List.append_assoc]

theorem text (hides : table.HidesTags) (content : Text) :
    table.Shows (table.escape content) content :=
  withoutTags_append (not_mem_escape hides.reserved hides.absent content)

/-- A tag shows nothing. -/
theorem tag {inside : Text} (free : '>' ∉ inside) : table.Shows ('<' :: inside ++ ['>']) [] := by
  intro rest
  rw [List.append_assoc, List.cons_append, Text.withoutTags, if_neg Bool.false_ne_true, if_pos rfl]
  exact withoutTags_tag free rest

theorem shown_eq (shows : table.Shows markup content) (readable : table.Readable) :
    table.shown markup = content := by
  have only := shows []
  rw [List.append_nil, Text.withoutTags, List.append_nil] at only
  rw [shown, only, readable.unescape_escape]

end Shows

end EntityTable

open EntityTable (Shows hidesTags_html hidesTags_jsx)

variable {α : Type}

namespace Html

theorem shows_element {tag : Text} {children : List Node} {content : Text} (free : '>' ∉ tag)
    (inner : Shows .html (Node.printAll children) content) :
    Shows .html (Node.element tag [] children).print content := by
  have closing : '>' ∉ '/' :: tag := List.not_mem_cons_of_ne_of_not_mem (by decide) free
  have around := ((Shows.tag free).append inner).append (Shows.tag closing)
  simpa [Node.print] using around

theorem shows_map {make : α → Node} {content : α → Text}
    (each : ∀ value, Shows .html (make value).print (content value)) (values : List α) :
    Shows .html (Node.printAll (values.map make)) (values.flatMap content) := by
  induction values with
  | nil => exact .nil
  | cons value values ih => exact (each value).append ih

theorem shows_text (content : Text) : Shows .html (Node.printAll [.text content]) content := by
  simpa [Node.printAll, Node.print] using Shows.text hidesTags_html content

theorem shows_emphasized (content : Text) :
    Shows .html (Inline.emphasized content).print content :=
  shows_element (by decide) (shows_text content)

theorem shows_toHtml (node : Inline) : Shows .html node.toHtml.print node.visible := by
  cases node with
  | text content => exact Shows.text hidesTags_html content
  | italic content => exact shows_emphasized content
  | bold content italics =>
      match italics with
      | none | some [] => exact shows_element (by decide) (shows_text (content.getD []))
      | some (first :: more) =>
          have runs := shows_map shows_emphasized (first :: more)
          rw [List.flatMap_id'] at runs
          exact shows_element (by decide) runs

end Html

namespace Jsx

theorem not_mem_print_key (index : Nat) : '>' ∉ (Attribute.key index).print := by
  have printed : (Attribute.key index).print =
    " key=\x7b".toList ++ Text.ofNat index ++ "\x7d".toList := rfl
  have digits : '>' ∉ Text.ofNat index := by
    intro member
    have digit := (isNumber_ofNat index).2 '>' member
    cases digit
  rw [printed, List.mem_append, List.mem_append, not_or, not_or]
  exact ⟨⟨by decide, digits⟩, by decide⟩

/-- The key of an element does not end its tag. -/
theorem shows_element {tag : Text} {index : Nat} {children : List Phrase} {content : Text}
    (free : '>' ∉ tag) (inner : Shows .jsx (Phrase.printAll children) content) :
    Shows .jsx (Phrase.element tag [.key index] children).print content := by
  have opening : '>' ∉ tag ++ [Attribute.key index].flatMap Attribute.print := by
    rw [List.flatMap_singleton, List.mem_append, not_or]
    exact ⟨free, not_mem_print_key index⟩
  have closing : '>' ∉ '/' :: tag := List.not_mem_cons_of_ne_of_not_mem (by decide) free
  have around := ((Shows.tag opening).append inner).append (Shows.tag closing)
  simpa [Phrase.print, openTag, closeTag] using around

theorem shows_mapIdx {make : Nat → α → Phrase} {content : α → Text}
    (each : ∀ index value, Shows .jsx (make index value).print (content value))
    (values : List α) :
    Shows .jsx (Phrase.printAll (values.mapIdx make)) (values.flatMap content) := by
  induction values generalizing make with
  | nil => exact .nil
  | cons value values ih =>
      rw [List.mapIdx_cons]
      exact (each 0 value).append (ih fun index => each (index + 1))

theorem shows_text (content : Text) : Shows .jsx (Phrase.printAll [.text content]) content := by
  simpa [Phrase.printAll, Phrase.print] using Shows.text hidesTags_jsx content

theorem shows_emphasizedPhrase (index : Nat) (content : Text) :
    Shows .jsx (Inline.emphasizedPhrase content index).print content :=
  shows_element (by decide) (shows_text content)

theorem shows_toPhrase (index : Nat) (node : Inline) :
    Shows .jsx (node.toPhrase index).print node.visible := by
  cases node with
  | text content => exact Shows.text hidesTags_jsx content
  | italic content => exact shows_emphasizedPhrase index content
  | bold content italics =>
      match italics with
      | none | some [] => exact shows_element (by decide) (shows_text (content.getD []))
      | some (first :: more) =>
          have runs := shows_mapIdx shows_emphasizedPhrase (first :: more)
          rw [List.flatMap_id'] at runs
          exact shows_element (by decide) runs

end Jsx

/-! ## What is shown of a text -/

namespace Inline

/-- The delimiters in front of the visible text of a node and behind it. -/
def delimiters : Inline → Text × Text
  | .text _ => ([], [])
  | .italic _ => (['_'], ['_'])
  | .bold _ (some (_ :: _)) => (['_', '*'], ['*', '_'])
  | .bold _ _ => (['*'], ['*'])

theorem source_eq {node : Inline} (delimited : node.Delimited) :
    node.source = node.delimiters.1 ++ node.visible ++ node.delimiters.2 := by
  match node, delimited with
  | .text content, _ | .italic content, _ | .bold (some content) none, _
  | .bold none (some [content]), _ => simp [source, delimiters, visible]

/-- A text is the visible texts of its nodes, each between its delimiters. -/
theorem flatMap_delimited_read (text : Text) :
    (read text).flatMap (fun node => node.delimiters.1 ++ node.visible ++ node.delimiters.2) =
      text := by
  have written := List.flatMap_congr fun node (member : node ∈ read text) =>
    source_eq (delimited_of_mem_read node member)
  exact written.symm.trans (flatMap_source_read text)

theorem shown_ofInline (nodes : List Inline) :
    EntityTable.html.shown (Preview.ofInline nodes) = nodes.flatMap visible ∧
      EntityTable.jsx.shown (Component.ofInline nodes) = nodes.flatMap visible :=
  ⟨(Html.shows_map Html.shows_toHtml nodes).shown_eq EntityTable.readable_html,
    (Jsx.shows_mapIdx Jsx.shows_toPhrase nodes).shown_eq EntityTable.readable_jsx⟩

/-- Previews and components show the visible texts of inline nodes. Of a text that is read as inline
nodes, both show what is left when the delimiters of its emphases are taken out. -/
theorem shown_eq_visible :
    (∀ nodes : List Inline,
      EntityTable.html.shown (Preview.ofInline nodes) = nodes.flatMap visible ∧
        EntityTable.jsx.shown (Component.ofInline nodes) = nodes.flatMap visible) ∧
    ∀ text : Text,
      (read text).flatMap (fun node =>
          node.delimiters.1 ++ node.visible ++ node.delimiters.2) = text ∧
        (∀ node ∈ read text, node.Delimited) ∧
        EntityTable.html.shown (Preview.ofInline (read text)) = (read text).flatMap visible ∧
        EntityTable.jsx.shown (Component.ofInline (read text)) = (read text).flatMap visible :=
  ⟨shown_ofInline, fun text =>
    ⟨flatMap_delimited_read text, fun node => delimited_of_mem_read node,
      shown_ofInline (read text)⟩⟩

/-- What looks like a tag or an entity in a content is shown as it is. -/
example :
    EntityTable.jsx.shown
        (Component.ofInline [.bold (some "<i>".toList) none, .text "&lt;".toList]) =
      "<i>&lt;".toList := by decide +kernel

end Inline

end Mockup
