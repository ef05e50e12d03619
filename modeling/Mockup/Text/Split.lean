import Mockup.Text.Basic

/-!
# Splitting text

Two ways to cut a text: at every occurrence of a separator, and at the first place behind which
some reader succeeds. The second one carries all the "shortest label first" rules of the notation.
-/

namespace Mockup.Text

/-- The pieces between the separators; a text without the separator is a single piece. -/
def splitOn (separator : Char) : Text → List Text
  | [] => [[]]
  | character :: rest =>
    if character = separator then [] :: splitOn separator rest
    else match splitOn separator rest with
      | [] => [[character]]
      | piece :: pieces => (character :: piece) :: pieces

/-- The trimmed pieces between the separators, without the empty ones. -/
def entries (separator : Char) (text : Text) : List Text :=
  ((splitOn separator text).map trim).filter (· ≠ [])

/-- The shortest nonempty front of a text behind which `read` succeeds, with what is read there. -/
def until? {α : Type} (read : Text → Option α) : Text → Option (Text × α)
  | [] => none
  | character :: rest =>
    match read rest with
    | some found => some ([character], found)
    | none => (until? read rest).map fun (front, found) => (character :: front, found)

/-- The characters in front of the first `stop`, and what follows the `stop`. -/
def spanTo? (stop : Char) : Text → Option (Text × Text)
  | [] => none
  | character :: rest =>
    if character = stop then some ([], rest)
    else (spanTo? stop rest).map fun (run, behind) => (character :: run, behind)

/-- The characters in front of the first `stop`, of which there is at least one, and what follows
the `stop`. -/
def upTo? (stop : Char) (text : Text) : Option (Text × Text) :=
  (spanTo? stop text).filter fun (run, _) => run ≠ []

/-- Reads behind a nonempty run of blanks, which is skipped as a whole. -/
def behindBlanks? {α : Type} (read : Text → Option α) : Text → Option α
  | [] => none
  | first :: rest => if isBlank first then read (trimStart rest) else none

/-- The words of the rest of a text, which blanks separate; `word` is the start of the first one,
the last character first. -/
def wordsFrom : (word : Text) → Text → List Text
  | word, [] => if word = [] then [] else [word.reverse]
  | word, character :: rest =>
    if isBlank character then
      if word = [] then wordsFrom [] rest else word.reverse :: wordsFrom [] rest
    else wordsFrom (character :: word) rest

/-- The words of a text, which blanks separate. -/
def words (text : Text) : List Text :=
  wordsFrom [] text

/-- The texts with `separator` between each two neighbours. -/
def joined (separator : Text) (texts : List Text) : Text :=
  List.intercalate separator texts

theorem splitOn_ne_nil (separator : Char) (text : Text) : splitOn separator text ≠ [] := by
  cases text with
  | nil => simp [splitOn]
  | cons character rest =>
    rw [splitOn]
    split
    · simp
    · split <;> simp

/-- Cutting at a separator and splitting both sides is splitting the whole. -/
theorem splitOn_append_cons (separator : Char) (front rest : Text) :
    splitOn separator (front ++ separator :: rest) =
      splitOn separator front ++ splitOn separator rest := by
  induction front with
  | nil => simp [splitOn]
  | cons character front ih =>
    by_cases equal : character = separator
    · simp [splitOn, equal, ih]
    · obtain ⟨piece, pieces, split⟩ := List.exists_cons_of_ne_nil (splitOn_ne_nil separator front)
      simp [splitOn, equal, ih, split]

/-- No piece holds the separator. -/
theorem not_mem_of_mem_splitOn {separator : Char} {text piece : Text}
    (member : piece ∈ splitOn separator text) : separator ∉ piece := by
  induction text generalizing piece with
  | nil => simp_all [splitOn]
  | cons character rest ih =>
    rw [splitOn] at member
    split at member
    · rcases List.mem_cons.1 member with rfl | later
      · simp
      · exact ih later
    · rename_i differs
      split at member
      · rw [List.mem_singleton.1 member]
        simpa using Ne.symm differs
      · rename_i first others equal
        rcases List.mem_cons.1 member with rfl | later
        · have free : separator ∉ first := ih (by simp [equal])
          simp [free, Ne.symm differs]
        · exact ih (by simp [equal, later])

/-- The run ends right in front of the first `stop`. -/
theorem spanTo?_eq_some_iff {stop : Char} {text run rest : Text} :
    spanTo? stop text = some (run, rest) ↔ text = run ++ stop :: rest ∧ stop ∉ run := by
  induction text generalizing run with
  | nil => simp [spanTo?]
  | cons character text ih =>
    by_cases equal : character = stop
    · cases run <;> simp_all [spanTo?, eq_comm]
    · cases run with
      | nil => simp [spanTo?, equal]
      | cons first run =>
        simp only [spanTo?, equal, if_false, Option.map_eq_some_iff, Prod.mk.injEq,
          List.cons.injEq, Prod.exists, List.cons_append, List.mem_cons, not_or]
        constructor
        · rintro ⟨_, _, found, ⟨rfl, rfl⟩, rfl⟩
          exact ⟨⟨rfl, (ih.1 found).1⟩, Ne.symm equal, (ih.1 found).2⟩
        · rintro ⟨⟨rfl, cut⟩, _, free⟩
          exact ⟨run, rest, ih.2 ⟨cut, free⟩, ⟨rfl, rfl⟩, rfl⟩

theorem upTo?_eq_some_iff {stop : Char} {text run rest : Text} :
    upTo? stop text = some (run, rest) ↔
      (text = run ++ stop :: rest ∧ stop ∉ run) ∧ run ≠ [] := by
  simp [upTo?, Option.filter_eq_some_iff, spanTo?_eq_some_iff]

/-- A successful cut leaves a nonempty front, and what is read stands right behind it. -/
theorem until?_eq_some {α : Type} {read : Text → Option α} {text front : Text} {found : α}
    (cut : until? read text = some (front, found)) :
    front ≠ [] ∧ ∃ rest, text = front ++ rest ∧ read rest = some found := by
  induction text generalizing front with
  | nil => simp [until?] at cut
  | cons character rest ih =>
    rw [until?] at cut
    split at cut
    · rename_i success
      simp only [Option.some.injEq, Prod.mk.injEq] at cut
      obtain ⟨rfl, rfl⟩ := cut
      exact ⟨by simp, rest, rfl, success⟩
    · simp only [Option.map_eq_some_iff, Prod.mk.injEq] at cut
      obtain ⟨⟨shorter, _⟩, inner, rfl, rfl⟩ := cut
      obtain ⟨_, tail, rfl, success⟩ := ih inner
      exact ⟨by simp, tail, rfl, success⟩

/-- A cut succeeds if the reader succeeds at the end of the text. -/
theorem until?_isSome {α : Type} {read : Text → Option α} {text : Text} (nonempty : text ≠ [])
    (atEnd : (read []).isSome) : (until? read text).isSome := by
  induction text with
  | nil => exact absurd rfl nonempty
  | cons character rest ih =>
    rw [until?]
    split
    · rfl
    · rename_i failed
      cases rest with
      | nil => simp [failed] at atEnd
      | cons next rest => simpa using ih (by simp)

end Mockup.Text
