import Mockup.Text.Basic

/-!
# Single-quoted literals

The string literals of generated script code. A backslash makes the next character literal, and
the first quote that no backslash precedes ends the literal.
-/

namespace Mockup.Text

/-- A character as it stands inside a single-quoted literal. -/
def literalCharacter (character : Char) : Text :=
  if character = '\\' || character = '\'' then ['\\', character] else [character]

/-- The single-quoted literal of a text. -/
def literal (text : Text) : Text :=
  '\'' :: text.flatMap literalCharacter ++ ['\'']

/-- Reads the inside of a literal up to its closing quote: the text it stands for, and what
follows the quote. -/
def readLiteralBody? : Text → Option (Text × Text)
  | [] => none
  | '\'' :: rest => some ([], rest)
  | '\\' :: character :: rest =>
    (readLiteralBody? rest).map fun (body, rest) => (character :: body, rest)
  | character :: rest =>
    if character = '\\' then none
    else (readLiteralBody? rest).map fun (body, rest) => (character :: body, rest)

/-- Reads a literal at the start of a text. -/
def readLiteral? : Text → Option (Text × Text)
  | '\'' :: rest => readLiteralBody? rest
  | _ => none

/-- Reading a written literal gives the text back and stops right behind it. -/
theorem readLiteral?_literal (text rest : Text) :
    readLiteral? (literal text ++ rest) = some (text, rest) := by
  have body : readLiteralBody? (text.flatMap literalCharacter ++ '\'' :: rest) =
      some (text, rest) := by
    induction text with
    | nil => rfl
    | cons character text ih =>
      by_cases special : character = '\\' ∨ character = '\''
      · rcases special with rfl | rfl <;> simp [literalCharacter, readLiteralBody?, ih]
      · have plain := not_or.1 special
        simp only [literalCharacter, plain.1, plain.2, decide_false, Bool.or_self,
          Bool.false_eq_true, if_false, List.flatMap_cons, List.cons_append, List.nil_append]
        rw [readLiteralBody?]
        · simp [plain.1, ih]
        · exact plain.2
        · exact fun _ _ equal _ => plain.1 equal
  simpa [literal, readLiteral?] using body

end Mockup.Text
