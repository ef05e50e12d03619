import Mathlib.Data.List.Basic
import Mockup.Text.Split

/-!
# Replacing characters

To replace a character by a text is to cut at the character and to put the text where the cuts are.
Several replacements are made one after the other, each in what the ones before it have left. That
is the same as making all of them at once, character by character, as long as none puts in a
character that a later one replaces.
-/

namespace Mockup.Text

/-- A text with `new` in place of each `old`. -/
def replace (old : Char) (new text : Text) : Text :=
  joined new (splitOn old text)

/-- A text after several replacements, one after the other. -/
def replaceAll (replacements : List (Char × Text)) (text : Text) : Text :=
  replacements.foldl (fun text (old, new) => replace old new text) text

/-- What a character is turned into if all replacements are made at once. -/
def replaced (replacements : List (Char × Text)) (character : Char) : Text :=
  (replacements.lookup character).getD [character]

variable {old : Char} {new : Text} {replacements : List (Char × Text)}

/-- Replacing goes through a text character by character. -/
theorem replace_cons (character : Char) (text : Text) :
    replace old new (character :: text) =
      (if character = old then new else [character]) ++ replace old new text := by
  obtain ⟨piece, pieces, cut⟩ := List.exists_cons_of_ne_nil (splitOn_ne_nil old text)
  rw [replace, replace, splitOn, cut]
  split
  · rw [joined, List.intercalate_cons_cons, List.nil_append]
    rfl
  · cases pieces with
    | nil => rfl
    | cons next pieces =>
        rw [joined, joined, List.intercalate_cons_cons, List.intercalate_cons_cons]
        rfl

theorem replace_eq_flatMap (text : Text) :
    replace old new text =
      text.flatMap fun character => if character = old then new else [character] := by
  induction text with
  | nil => rfl
  | cons character text ih => rw [replace_cons, ih, List.flatMap_cons]

@[simp] theorem replaced_nil (character : Char) : replaced [] character = [character] := rfl

theorem replaced_cons (character : Char) :
    replaced ((old, new) :: replacements) character =
      if character = old then new else replaced replacements character := by
  rw [replaced, replaced, List.lookup_cons]
  by_cases same : character = old
  · simp [same]
  · rw [beq_false_of_ne same, if_neg same]

/-- A text is left as it is if none of its characters is replaced. -/
theorem flatMap_replaced_eq_self {text : Text}
    (kept : ∀ character ∈ text, replaced replacements character = [character]) :
    text.flatMap (replaced replacements) = text := by
  rw [List.flatMap_congr kept, List.flatMap_singleton']

theorem replaced_of_not_mem {character : Char}
    (other : ∀ replacement ∈ replacements, character ≠ replacement.1) :
    replaced replacements character = [character] := by
  induction replacements with
  | nil => rfl
  | cons replacement replacements ih =>
      obtain ⟨differs, others⟩ := List.forall_mem_cons.1 other
      rw [replaced_cons, if_neg differs, ih others]

/-- Replacements can be made at once if none puts in a character that a later one replaces. -/
theorem replaceAll_eq_flatMap
    (ordered : replacements.Pairwise fun earlier later => later.1 ∉ earlier.2) (text : Text) :
    replaceAll replacements text = text.flatMap (replaced replacements) := by
  induction replacements generalizing text with
  | nil => exact (flatMap_replaced_eq_self fun _ _ => rfl).symm
  | cons replacement replacements ih =>
      obtain ⟨old, new⟩ := replacement
      obtain ⟨kept, ordered⟩ := List.pairwise_cons.1 ordered
      have unchanged : new.flatMap (replaced replacements) = new := by
        apply flatMap_replaced_eq_self
        intro character member
        apply replaced_of_not_mem
        rintro later known rfl
        exact kept later known member
      have later : replaceAll replacements (replace old new text) =
          (replace old new text).flatMap (replaced replacements) := ih ordered _
      calc
        replaceAll ((old, new) :: replacements) text
          = (replace old new text).flatMap (replaced replacements) := later
        _ = text.flatMap (replaced ((old, new) :: replacements)) := by
          rw [replace_eq_flatMap, List.flatMap_assoc]
          apply List.flatMap_congr
          intro character _
          rw [replaced_cons]
          split
          · exact unchanged
          · exact List.flatMap_singleton _ _

end Mockup.Text
