import Mockup.Jsx.Component
import Mockup.Proofs.Text.Replace

/-!
# Literals in components

The names of screens stand in components as single-quoted literals. A literal is written by putting
a backslash in front of each backslash and then in front of each quote; since backslashes come
first, none that is put in is escaped again. Read from its start, a literal ends at its last
character and not before, whatever the text holds and whatever follows, so that the name of a screen
cannot reach the code around it.
-/

namespace Mockup

namespace Text

/-- What is replaced in a text that is quoted by a literal, in this order. -/
def quoting : List (Char × Text) :=
  [('\\', ['\\', '\\']), ('\'', ['\\', '\''])]

/-- Behind `front` the line goes on with a literal for `value`, and behind that with `rest`. -/
def Quotes (front value rest line : Text) : Prop :=
  (after? front line).bind readLiteral? = some (value, rest)

variable {front body rest text : Text}

theorem replaced_quoting (character : Char) :
    replaced quoting character = literalCharacter character := by
  rw [quoting, replaced_cons, replaced_cons, replaced_nil, literalCharacter]
  by_cases slash : character = '\\'
  · subst slash
    rfl
  · by_cases quote : character = '\''
    · subst quote
      rfl
    · simp [slash, quote]

/-- Escaping backslashes and then quotes is escaping each character for itself. -/
theorem literal_eq_replaceAll (text : Text) :
    literal text = '\'' :: replaceAll quoting text ++ ['\''] := by
  have ordered : quoting.Pairwise fun earlier later => later.1 ∉ earlier.2 := by decide
  rw [replaceAll_eq_flatMap ordered, literal, funext replaced_quoting]

/-- A literal that has been read does not depend on what follows it. -/
theorem readLiteralBody?_append (more : Text) (read : readLiteralBody? text = some (body, rest)) :
    readLiteralBody? (text ++ more) = some (body, rest ++ more) := by
  fun_induction readLiteralBody? text generalizing body with
  | case1 => cases read
  | case2 tail =>
      cases read
      rfl
  | case3 character tail ih =>
      obtain ⟨⟨shorter, behind⟩, inner, same⟩ := Option.map_eq_some_iff.1 read
      cases same
      rw [List.cons_append, List.cons_append, readLiteralBody?, ih inner]
      rfl
  | case4 => cases read
  | case5 character tail quote escape plain ih =>
      obtain ⟨⟨shorter, behind⟩, inner, same⟩ := Option.map_eq_some_iff.1 read
      cases same
      rw [List.cons_append, readLiteralBody?, if_neg plain, ih inner]
      · rfl
      · exact quote
      · exact fun _ _ slash _ => plain slash

theorem readLiteral?_append (more : Text) (read : readLiteral? text = some (body, rest)) :
    readLiteral? (text ++ more) = some (body, rest ++ more) := by
  rw [readLiteral?.eq_def] at read
  split at read
  · exact readLiteralBody?_append more read
  · cases read

/-- A literal is read as a whole. -/
theorem readLiteral?_literal_self (text : Text) :
    readLiteral? (literal text) = some (text, []) := by
  have read := readLiteral?_literal text []
  rwa [List.append_nil] at read

/-- No part at the start of a literal is a literal of its own, with or without a rest. -/
theorem readLiteral?_of_prefix (led : front <+: literal text) (part : front ≠ literal text) :
    readLiteral? front = none := by
  cases read : readLiteral? front with
  | none => rfl
  | some found =>
      obtain ⟨more, whole⟩ := led
      have longer := readLiteral?_append more read
      rw [whole, readLiteral?_literal_self] at longer
      have ended : more = [] := by
        have rests : [] = found.2 ++ more := congrArg Prod.snd (Option.some.inj longer)
        exact (List.append_eq_nil_iff.1 rests.symm).2
      rw [ended, List.append_nil] at whole
      exact absurd whole part

/-- Different texts have different literals. -/
theorem eq_of_literal_eq {other : Text} (same : literal other = literal text) : other = text := by
  have read := readLiteral?_literal_self other
  rw [same, readLiteral?_literal_self] at read
  cases read
  rfl

theorem quotes_literal (front value rest : Text) :
    Quotes front value rest (front ++ literal value ++ rest) := by
  rw [Quotes, List.append_assoc, after?_append]
  exact readLiteral?_literal value rest

end Text

/-- The action of a button calls a setter with the name of the screen that the button leads to. -/
theorem Jsx.quotes_onClick (setter screen : Text) :
    Text.Quotes (" onClick=\x7b() => ".toList ++ setter ++ ['(']) screen ")\x7d".toList
      (Attribute.print (.onClick setter screen)) := by
  have shape : Attribute.print (.onClick setter screen) =
      " onClick=\x7b() => ".toList ++ setter ++ ['('] ++ Text.literal screen ++ ")\x7d".toList :=
    congrArg (· ++ ")\x7d".toList) (List.append_cons _ '(' (Text.literal screen))
  rw [shape]
  exact Text.quotes_literal _ screen _

/-- The first line of a guard compares a state with the name of the screen. -/
theorem Jsx.quotes_guard (depth : Nat) (state screen : Text) (body : Node) :
    ∃ line lines, Node.print depth (.guard state screen body) = line :: lines ∧
      Text.Quotes (pad depth ++ '\x7b' :: state ++ " === ".toList) screen " && (".toList line := by
  rw [Node.print, List.cons_append]
  exact ⟨_, _, rfl, Text.quotes_literal _ screen _⟩

/-- The line that declares a state starts it with the name of the initial screen. -/
theorem Component.quotes_stateLine (workflow : Nat) (initial : Text) :
    Text.Quotes ("  const [".toList ++ (StateNames.ofIndex workflow).value ++ ", ".toList ++
        (StateNames.ofIndex workflow).setter ++ "] = useState(".toList) initial ");".toList
      (stateLine workflow initial) :=
  Text.quotes_literal _ initial _

namespace Text

/-- The literal of a text is the text with backslashes and then quotes escaped, between quotes.
Reading it takes the whole literal and gives the text back, and no shorter part at its start can be
read, so that different texts have different literals. Where a component names a screen, in the
action of a button, in the guard of a screen or as the start of a state, the code goes on right
behind the literal as it was meant to. -/
theorem literal_exact (text : Text) :
    literal text = '\'' :: replaceAll quoting text ++ ['\''] ∧
      readLiteral? (literal text) = some (text, []) ∧
      (∀ front, front <+: literal text → front ≠ literal text → readLiteral? front = none) ∧
      (∀ other, literal other = literal text → other = text) ∧
      (∀ setter, Quotes (" onClick=\x7b() => ".toList ++ setter ++ ['(']) text ")\x7d".toList
        (Jsx.Attribute.print (.onClick setter text))) ∧
      (∀ depth state body, ∃ line lines,
        Jsx.Node.print depth (.guard state text body) = line :: lines ∧
          Quotes (Jsx.pad depth ++ '\x7b' :: state ++ " === ".toList) text " && (".toList line) ∧
      ∀ workflow,
        Quotes ("  const [".toList ++ (StateNames.ofIndex workflow).value ++ ", ".toList ++
            (StateNames.ofIndex workflow).setter ++ "] = useState(".toList) text ");".toList
          (Component.stateLine workflow text) := by
  refine ⟨literal_eq_replaceAll text, readLiteral?_literal_self text, ?_, ?_, ?_, ?_, ?_⟩
  · intro front led part
    exact readLiteral?_of_prefix led part
  · intro other same
    exact eq_of_literal_eq same
  · intro setter
    exact Jsx.quotes_onClick setter text
  · intro depth state body
    exact Jsx.quotes_guard depth state text body
  · intro workflow
    exact Component.quotes_stateLine workflow text

/-- A text with a quote behind a backslash, and a backslash at its end: the quote in front of the
last one does not end its literal. -/
theorem literal_exact_backslashes :
    literal "\\'\\".toList = "'\\\\\\'\\\\'".toList ∧
      "'\\\\\\'".toList <+: literal "\\'\\".toList ∧
      readLiteral? "'\\\\\\'".toList = none ∧
      ∀ other, literal other = "'\\\\\\'\\\\'".toList → other = "\\'\\".toList := by
  have written : literal "\\'\\".toList = "'\\\\\\'\\\\'".toList := by decide
  have led : "'\\\\\\'".toList <+: literal "\\'\\".toList := by decide
  obtain ⟨-, -, unread, injective, -⟩ := literal_exact "\\'\\".toList
  refine ⟨written, led, unread _ led (by decide), ?_⟩
  intro other same
  exact injective other (same.trans written.symm)

end Text

end Mockup
