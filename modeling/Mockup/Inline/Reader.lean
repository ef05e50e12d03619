import Mockup.Inline
import Mockup.Text.Split

/-!
# Reading emphasis

Emphasis is looked for at each place in turn, and bold italic before bold and italic. The content
of an emphasis is as short as possible, but not empty, and stays on one line. A marker that opens
no emphasis is a run of its own.
-/

namespace Mockup.Inline

/-- Whether a character may open or close emphasis. -/
def isMarker (character : Char) : Bool :=
  character = '*' || character = '_'

/-- The shortest content between two delimiters at the start of a text, and what follows. -/
def between? (opening closing text : Text) : Option (Text × Text) := do
  let inner ← Text.after? opening text
  let (content, rest) ← Text.until? (Text.after? closing) inner
  if Text.oneLine content then some (content, rest) else none

/-- The emphasis that a text starts with, and what follows it. -/
def emphasis? (text : Text) : Option (Inline × Text) :=
  match between? ['_', '*'] ['*', '_'] text with
  | some (content, rest) => some (.bold none (some [content]), rest)
  | none =>
    match between? ['*'] ['*'] text with
    | some (content, rest) => some (.bold (some content) none, rest)
    | none => (between? ['_'] ['_'] text).map fun (content, rest) => (.italic content, rest)

/-- Delimited content is nonempty, keeps to one line and stands at the start of the text. -/
theorem between?_eq_some {opening closing text content rest : Text}
    (found : between? opening closing text = some (content, rest)) :
    text = opening ++ content ++ closing ++ rest ∧ content ≠ [] ∧ Text.oneLine content = true := by
  simp only [between?, Option.bind_eq_bind, Option.bind_eq_some_iff,
    Text.after?_eq_some_iff] at found
  obtain ⟨inner, rfl, ⟨front, tail⟩, cut, guarded⟩ := found
  obtain ⟨nonempty, behind, rfl, closed⟩ := Text.until?_eq_some cut
  rw [Text.after?_eq_some_iff] at closed
  split at guarded
  · rename_i single
    simp only [Option.some.injEq, Prod.mk.injEq] at guarded
    obtain ⟨rfl, rfl⟩ := guarded
    exact ⟨by simp [closed], nonempty, single⟩
  · simp at guarded

/-- An emphasis takes the text of its notation off the front. -/
theorem emphasis?_eq_some {text rest : Text} {node : Inline}
    (found : emphasis? text = some (node, rest)) :
    text = node.source ++ rest ∧ node.source ≠ [] := by
  rw [emphasis?] at found
  split at found
  · rename_i content tail inner
    simp only [Option.some.injEq, Prod.mk.injEq] at found
    obtain ⟨rfl, rfl⟩ := found
    exact ⟨by simp [(between?_eq_some inner).1, source], by simp [source]⟩
  · split at found
    · rename_i content tail inner
      simp only [Option.some.injEq, Prod.mk.injEq] at found
      obtain ⟨rfl, rfl⟩ := found
      exact ⟨by simp [(between?_eq_some inner).1, source], by simp [source]⟩
    · simp only [Option.map_eq_some_iff, Prod.mk.injEq] at found
      obtain ⟨⟨content, tail⟩, inner, rfl, rfl⟩ := found
      exact ⟨by simp [(between?_eq_some inner).1, source], by simp [source]⟩

/-- What follows an emphasis is shorter than the text it was read from. -/
theorem length_lt_of_emphasis? {text rest : Text} {node : Inline}
    (found : emphasis? text = some (node, rest)) : rest.length < text.length := by
  obtain ⟨rfl, nonempty⟩ := emphasis?_eq_some found
  have := List.length_pos_iff.2 nonempty
  simp only [List.length_append]
  omega

/-- The inline nodes of a text. -/
def read : Text → List Inline
  | [] => []
  | character :: rest =>
    match _found : emphasis? (character :: rest) with
    | some (node, behind) => node :: read behind
    | none =>
      if isMarker character then .text [character] :: read rest
      else
        .text (character :: rest.takeWhile (!isMarker ·)) :: read (rest.dropWhile (!isMarker ·))
termination_by text => text.length
decreasing_by
  · exact length_lt_of_emphasis? (by assumption)
  · simp
  · have := (List.dropWhile_sublist (!isMarker ·) (l := rest)).length_le
    simp only [List.length_cons]
    omega

end Mockup.Inline
