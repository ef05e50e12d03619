import Mockup.Control
import Mockup.Text.Split

/-!
# Fields in a line

A field is a label, blanks and a marker. This module knows the markers, finds all fields of a line
from left to right, and reads a line that is one field from start to end.
-/

namespace Mockup.Field

/-- The marker of a text field. -/
def textMark : Text := "___".toList

/-- The marker of a password field. -/
def passwordMark : Text := "__*".toList

/-- The marker of a text area. -/
def textareaMark : Text := "|___|".toList

/-- The marker of a check box. -/
def checkboxMark : Text := "__[]".toList

/-- The marker of a drop-down list; an option list in brackets may follow it. -/
def dropdownMark : Text := "__>".toList

/-- The marker of a radio group; an option list in brackets follows it. -/
def radioMark : Text := "__()".toList

/-- The options of a comma-separated list. -/
def splitOptions (list : Text) : List Text :=
  Text.entries ',' list

/-- A bracketed option list at the start of a text, blanks in front included, and what follows. -/
def readOptionList? (text : Text) : Option (Text × Text) := do
  let inner ← Text.after? ['['] (Text.trimStart text)
  let (list, rest) ← Text.upTo? ']' inner
  some (text.takeWhile Text.isBlank ++ '[' :: list ++ [']'], rest)

/-- The marker that a text starts with, and what follows it. -/
def readMarker? (text : Text) : Option (Text × Text) :=
  match Text.after? textMark text with
  | some rest => some (textMark, rest)
  | none =>
  match Text.after? textareaMark text with
  | some rest => some (textareaMark, rest)
  | none =>
  match Text.after? passwordMark text with
  | some rest => some (passwordMark, rest)
  | none =>
  match Text.after? dropdownMark text with
  | some rest =>
    match readOptionList? rest with
    | some (list, rest) => some (dropdownMark ++ list, rest)
    | none => some (dropdownMark, rest)
  | none => (Text.after? checkboxMark text).map fun rest => (checkboxMark, rest)

/-- Reading a marker takes its text off the front, and a marker is never empty. -/
theorem readMarker?_eq_some {text marker rest : Text}
    (found : readMarker? text = some (marker, rest)) : text = marker ++ rest ∧ marker ≠ [] := by
  rw [readMarker?] at found
  repeat' split at found
  all_goals simp only [Option.some.injEq, Prod.mk.injEq, Option.map_eq_some_iff] at found
  all_goals try obtain ⟨rfl, rfl⟩ := found
  · exact ⟨Text.after?_eq_some_iff.1 (by assumption), by decide⟩
  · exact ⟨Text.after?_eq_some_iff.1 (by assumption), by decide⟩
  · exact ⟨Text.after?_eq_some_iff.1 (by assumption), by decide⟩
  · rename_i behind taken _ list tail listed
    refine ⟨?_, by simp [dropdownMark]⟩
    rw [Text.after?_eq_some_iff.1 taken, List.append_assoc, List.append_cancel_left_eq]
    simp only [readOptionList?, Option.bind_eq_bind, Option.bind_eq_some_iff,
      Text.after?_eq_some_iff, Option.some.injEq, Prod.mk.injEq] at listed
    obtain ⟨inner, opened, ⟨run, after⟩, enclosed, rfl, rfl⟩ := listed
    have whole := List.takeWhile_append_dropWhile (p := Text.isBlank) (l := behind)
    rw [← Text.trimStart, opened, (Text.upTo?_eq_some_iff.1 enclosed).1.1] at whole
    simpa using whole.symm
  · exact ⟨Text.after?_eq_some_iff.1 (by assumption), by decide⟩
  · obtain ⟨tail, taken, rfl, rfl⟩ := found
    exact ⟨Text.after?_eq_some_iff.1 taken, by decide⟩

/-- The label up to the next field marker, the marker, and what follows it. The label has at least
one character and is the shortest one. -/
def next? (text : Text) : Option (Text × Text × Text) :=
  Text.until? (Text.behindBlanks? readMarker?) text

/-- What follows a field is shorter than the text the field was found in. -/
theorem length_lt_of_next? {text label marker rest : Text}
    (found : next? text = some (label, marker, rest)) : rest.length < text.length := by
  obtain ⟨nonempty, tail, rfl, behind⟩ := Text.until?_eq_some found
  have labelled := List.length_pos_iff.2 nonempty
  cases tail with
  | nil => simp [Text.behindBlanks?] at behind
  | cons first tail =>
    rw [Text.behindBlanks?] at behind
    split at behind
    · have shorter := (List.dropWhile_sublist Text.isBlank (l := tail)).length_le
      rw [← Text.trimStart, (readMarker?_eq_some behind).1] at shorter
      simp only [List.length_append, List.length_cons] at shorter ⊢
      omega
    · simp at behind

/-- All fields of a line from left to right, each with its untrimmed label and its marker. -/
def findAll (line : Text) : List (Text × Text) :=
  match _found : next? line with
  | none => []
  | some (label, marker, rest) => (label, marker) :: findAll rest
termination_by line.length
decreasing_by exact length_lt_of_next? (by assumption)

/-- The first bracketed list in a marker. -/
def bracketed? : Text → Option Text
  | [] => none
  | character :: rest =>
    match (if character = '[' then Text.upTo? ']' rest else none) with
    | some (list, _) => some list
    | none => bracketed? rest

/-- The control that a label and a marker stand for; an unknown marker means a text field. -/
def toControl (label marker : Text) : Control :=
  let label := Text.trim label
  if marker = passwordMark then .input label .password
  else if marker = textareaMark then .textarea label
  else if marker = checkboxMark then .checkbox label
  else if (Text.after? dropdownMark marker).isSome then
    .dropdown label ((bracketed? marker).map splitOptions)
  else .input label .text

/-- Reads a whole line that is a label, blanks and something that `read` accepts. The label is the
shortest possible and stays on one line; it is returned without surrounding blanks. -/
def labelled? {α : Type} (read : Text → Option α) (line : Text) : Option (Text × α) := do
  let (label, found) ← Text.until? (Text.behindBlanks? read) line
  if Text.oneLine label then some (Text.trim label, found) else none

/-- Accepts a text that is just the marker. -/
def readBare? (marker text : Text) : Option Unit :=
  if Text.isClosed marker text then some () else none

/-- Reads a marker and, to the end of the text, the inside of its bracketed list. -/
def readListed? (marker text : Text) : Option Text := do
  let rest ← Text.after? marker text
  let inner ← Text.after? ['['] (Text.trimStart rest)
  let list ← Text.before? [']'] (Text.chomp inner)
  if list ≠ [] ∧ Text.oneLine list then some list else none

/-- The label of a line that is one field with the given marker. -/
def bare? (marker line : Text) : Option Text :=
  (labelled? (readBare? marker) line).map Prod.fst

/-- The label and the list of a line that is one field with the given marker and options. -/
def listed? (marker line : Text) : Option (Text × Text) :=
  labelled? (readListed? marker) line

end Mockup.Field
