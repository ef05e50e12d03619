import Mathlib.Data.List.Infix
import Mathlib.Data.List.Induction
import Mathlib.Data.List.TakeWhile
import Mockup.Proofs.Directives

/-!
# The tokens of directives

How a text of directives is cut into tokens, said without the scanner. Words are as long as they can
be, the blanks that may stand between directives are dropped, and the cut ends at any other blank.
The scanner makes this cut and no other, so facts about tokens are read off the cut: that two texts
one after the other are cut one after the other, unless a word runs on from the first one to the
second, and that a text without tokens is blank.
-/

namespace Mockup

namespace Position

/-- The place right behind the front of a text. -/
def behind (front : Text) : Position :=
  ⟨front.count '\n' + 1, (front.reverse.takeWhile (· ≠ '\n')).length + 1⟩

theorem foldl_advance_start (front : Text) : front.foldl advance start = behind front := by
  induction front using List.reverseRecOn with
  | nil => rfl
  | append_singleton front character ih =>
      rw [List.foldl_concat, ih, advance]
      split
      · rename_i feed
        simp [behind, feed]
      · rename_i other
        simp [behind, other, List.count_append]

end Position

namespace Directives

/-- What may stand behind a word. -/
def Stops (text : Text) : Prop :=
  ∀ character ∈ text.head?, character = '=' ∨ Text.isBlank character = true

/-- A text that starts at a place is cut into tokens. Words are as long as they can be, and nothing
is looked at behind a blank that may not stand between directives. -/
inductive Cut : Position → Text → List Token → Prop where
  | nil (position : Position) : Cut position [] []
  | separator {position : Position} {character : Char} {rest : Text} {tokens : List Token} :
      isSeparator character = true → Cut (position.advance character) rest tokens →
      Cut position (character :: rest) tokens
  | equals {position : Position} {rest : Text} {tokens : List Token} :
      Cut (position.advance '=') rest tokens →
      Cut position ('=' :: rest) (.equals position :: tokens)
  | word {position : Position} {word rest : Text} {tokens : List Token} :
      word ≠ [] → IsWord word → Stops rest →
      Cut (word.foldl Position.advance position) rest tokens →
      Cut position (word ++ rest) (.word word position :: tokens)
  | stray {position : Position} {character : Char} {rest : Text} :
      Text.isBlank character = true → isSeparator character = false →
      Cut position (character :: rest) [.stray position]

variable {position : Position} {text front rest : Text} {tokens more : List Token}

theorem separator_cases {character : Char} (separator : isSeparator character = true) :
    character ≠ '=' ∧ Text.isBlank character = true := by
  have blanks : (" \t\x0c\r\n".toList.all fun blank => blank ≠ '=' && Text.isBlank blank) =
      true := by decide
  rw [isSeparator, List.contains_iff_mem] at separator
  simpa using List.all_eq_true.1 blanks character separator

theorem ne_equals_of_isBlank {character : Char} (blank : Text.isBlank character = true) :
    character ≠ '=' := by
  rintro rfl
  exact absurd blank (by decide)

theorem scan_separator {character : Char} (separator : isSeparator character = true)
    (position : Position) (rest : Text) :
    scan none position (character :: rest) = scan none (position.advance character) rest := by
  obtain ⟨differs, blank⟩ := separator_cases separator
  simp [scan, differs, blank, separator]

theorem scan_equals (position : Position) (rest : Text) :
    scan none position ('=' :: rest) =
      .equals position :: scan none (position.advance '=') rest := by
  simp [scan]

theorem scan_stray {character : Char} (blank : Text.isBlank character = true)
    (stray : isSeparator character = false) (position : Position) (rest : Text) :
    scan none position (character :: rest) = [.stray position] := by
  simp [scan, ne_equals_of_isBlank blank, blank, stray]

/-- A word ends in front of an equals sign, a blank or nothing at all. -/
theorem scan_word {word : Text} (nonempty : word ≠ []) (plain : IsWord word) (stops : Stops rest)
    (position : Position) :
    scan none position (word ++ rest) =
      .word word position :: scan none (word.foldl Position.advance position) rest := by
  rw [scan_append nonempty plain]
  cases rest with
  | nil => simp [scan]
  | cons character rest =>
      have ends : (character = '=' || Text.isBlank character) = true := by
        simpa using stops character rfl
      rw [scan, if_pos ends, scan, if_pos ends]
      simp only [Option.map_some, Option.map_none, Option.toList_some, Option.toList_none,
        List.reverse_reverse, List.singleton_append, List.nil_append]
      split
      · rfl
      · split <;> rfl

theorem scan_of_cut (cut : Cut position text tokens) : scan none position text = tokens := by
  induction cut with
  | nil position => rfl
  | separator separator _ ih => rw [scan_separator separator, ih]
  | equals _ ih => rw [scan_equals, ih]
  | word nonempty plain stops _ ih => rw [scan_word nonempty plain stops, ih]
  | stray blank stray => exact scan_stray blank stray _ _

/-- Every text is cut in one way, by the scanner. -/
theorem cut_scan (position : Position) (text : Text) :
    Cut position text (scan none position text) := by
  match text with
  | [] => exact .nil position
  | character :: rest =>
      by_cases equals : character = '='
      · subst equals
        rw [scan_equals]
        exact .equals (cut_scan _ rest)
      · cases blank : Text.isBlank character with
        | true =>
            cases separator : isSeparator character with
            | true =>
                rw [scan_separator separator]
                exact .separator separator (cut_scan _ rest)
            | false =>
                rw [scan_stray blank separator]
                exact .stray blank separator
        | false =>
            let plain : Char → Bool := fun other => other ≠ '=' && !Text.isBlank other
            have isWord : IsWord (character :: rest.takeWhile plain) := by
              intro other member
              rcases List.mem_cons.1 member with rfl | later
              · exact ⟨equals, blank⟩
              · simpa [plain] using List.mem_takeWhile_imp later
            have stops : Stops (rest.dropWhile plain) := by
              intro other first
              have failed := List.head?_dropWhile_not plain rest
              rw [Option.mem_def.1 first] at failed
              simpa [plain, or_iff_not_imp_left] using failed
            have shorter : (rest.dropWhile plain).length ≤ rest.length :=
              (List.dropWhile_sublist plain).length_le
            have whole : character :: rest =
                (character :: rest.takeWhile plain) ++ rest.dropWhile plain := by
              simp
            rw [whole, scan_word (List.cons_ne_nil _ _) isWord stops]
            exact .word (List.cons_ne_nil _ _) isWord stops (cut_scan _ (rest.dropWhile plain))
termination_by text.length
decreasing_by all_goals grind

theorem Stops.append {front rest : Text} (first : Stops front) (second : Stops rest) :
    Stops (front ++ rest) := by
  cases front with
  | nil => exact second
  | cons character front => exact first

/-- Two texts are cut one after the other if no word runs on from the first one to the second. -/
theorem Cut.append (cut : Cut position front tokens) (clean : ∀ place, .stray place ∉ tokens)
    (stops : Stops rest) (behind : Cut (front.foldl Position.advance position) rest more) :
    Cut position (front ++ rest) (tokens ++ more) := by
  induction cut with
  | nil position => exact behind
  | separator separator _ ih => exact .separator separator (ih clean behind)
  | equals _ ih =>
      exact .equals (ih (fun place => List.not_mem_of_not_mem_cons (clean place)) behind)
  | word nonempty plain ended _ ih =>
      rw [List.foldl_append] at behind
      rw [List.append_assoc, List.cons_append]
      exact .word nonempty plain (ended.append stops)
        (ih (fun place => List.not_mem_of_not_mem_cons (clean place)) behind)
  | stray _ _ => exact absurd (List.mem_singleton_self _) (clean _)

/-- A text without tokens holds nothing but separators. -/
theorem Cut.eq_nil_iff (cut : Cut position text tokens) :
    tokens = [] ↔ ∀ character ∈ text, isSeparator character = true := by
  induction cut with
  | nil => simp
  | separator separator _ ih =>
      rw [ih, List.forall_mem_cons]
      exact (and_iff_right separator).symm
  | equals =>
      refine iff_of_false (List.cons_ne_nil _ _) fun separators => ?_
      exact (separator_cases (separators '=' List.mem_cons_self)).1 rfl
  | @word _ word rest _ nonempty plain =>
      refine iff_of_false (List.cons_ne_nil _ _) fun separators => ?_
      obtain ⟨first, others, rfl⟩ := List.exists_cons_of_ne_nil nonempty
      have visible := (plain first List.mem_cons_self).2
      rw [(separator_cases (separators first List.mem_cons_self)).2] at visible
      cases visible
  | stray _ stray =>
      refine iff_of_false (List.cons_ne_nil _ _) fun separators => ?_
      rw [separators _ List.mem_cons_self] at stray
      cases stray

end Directives

end Mockup
