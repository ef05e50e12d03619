/-!
# Text

Sketches are read character by character, so the library works on character lists throughout and
leaves strings to the outermost layer. This module fixes what a blank is and holds the operations
that every reader shares: trimming, taking a fixed lead or tail off a text, and the line feed that
may close a line.
-/

namespace Mockup

/-- A text is the list of its characters. -/
abbrev Text := List Char

namespace Text

/-- Blanks are the space characters, the line and paragraph separators and the control characters
that move the cursor. The zero-width characters are not blanks. -/
def isBlank (character : Char) : Bool :=
  let code := character.toNat
  (0x09 ≤ code && code ≤ 0x0D) || (0x1C ≤ code && code ≤ 0x20) || code == 0x85 || code == 0xA0 ||
    code == 0x1680 || (0x2000 ≤ code && code ≤ 0x200A) || code == 0x2028 || code == 0x2029 ||
    code == 0x202F || code == 0x205F || code == 0x3000

/-- Whether a text holds nothing but blanks; the empty text does. -/
def allBlank (text : Text) : Bool :=
  text.all isBlank

/-- The text without its leading blanks. -/
def trimStart (text : Text) : Text :=
  text.dropWhile isBlank

/-- The text without its trailing blanks. -/
def trimEnd (text : Text) : Text :=
  (text.reverse.dropWhile isBlank).reverse

/-- The text without leading and trailing blanks. -/
def trim (text : Text) : Text :=
  trimEnd (trimStart text)

/-- Drops leading blanks, but never the last character of the text. -/
def skipBlanks : Text → Text
  | [] => []
  | [last] => [last]
  | first :: second :: rest =>
    if isBlank first then skipBlanks (second :: rest) else first :: second :: rest

/-- What stands behind a run of blanks: there is at least one blank and at least one character
behind it, and of all such runs the longest is taken. -/
def afterBlanks? : Text → Option Text
  | first :: second :: rest =>
    if isBlank first then some (skipBlanks (second :: rest)) else none
  | _ => none

/-- The rest of a text that starts with `lead`. -/
def after? : (lead text : Text) → Option Text
  | [], text => some text
  | _ :: _, [] => none
  | expected :: lead, actual :: text => if expected = actual then after? lead text else none

/-- The front of a text that ends with `tail`. -/
def before? (tail text : Text) : Option Text :=
  (after? tail.reverse text.reverse).map List.reverse

/-- The text without the line feed that closes it, if one does. -/
def chomp (text : Text) : Text :=
  (before? ['\n'] text).getD text

/-- Whether a text is `expected`, or `expected` with a line feed behind it. -/
def isClosed (expected text : Text) : Bool :=
  text = expected || text = expected ++ ['\n']

/-- Whether a text keeps to one line. -/
def oneLine (text : Text) : Bool :=
  !text.contains '\n'

/-- Whether `part` occurs somewhere in the text. -/
def holds (part : Text) : Text → Bool
  | [] => part.isEmpty
  | character :: rest => (after? part (character :: rest)).isSome || holds part rest

/-- The decimal digits of a number. -/
def ofNat (number : Nat) : Text :=
  Nat.toDigits 10 number

/-- The decimal digits of a number, with a minus sign in front of a negative one. -/
def ofInt : Int → Text
  | .ofNat number => ofNat number
  | .negSucc number => '-' :: ofNat (number + 1)

/-- A part of a text that keeps to one line does so too. -/
theorem oneLine_of_subset {part text : Text} (single : oneLine text = true) (within : part ⊆ text) :
    oneLine part = true := by
  simp only [oneLine, Bool.not_eq_true', List.contains_eq_mem, decide_eq_false_iff_not] at single ⊢
  exact fun member => single (within member)

@[simp] theorem trim_nil : trim [] = [] := rfl

@[simp] theorem after?_nil (text : Text) : after? [] text = some text := by
  cases text <;> rfl

/-- Taking off a lead splits the text at the end of that lead. -/
theorem after?_eq_some_iff {lead text rest : Text} :
    after? lead text = some rest ↔ text = lead ++ rest := by
  induction lead generalizing text with
  | nil => simp [eq_comm]
  | cons expected lead ih =>
    cases text with
    | nil => simp [after?]
    | cons actual text =>
      by_cases equal : expected = actual
      · simp [after?, equal, ih]
      · simp [after?, equal, Ne.symm equal]

@[simp] theorem after?_append (lead rest : Text) : after? lead (lead ++ rest) = some rest :=
  after?_eq_some_iff.2 rfl

/-- Taking off a tail splits the text at the start of that tail. -/
theorem before?_eq_some_iff {tail text front : Text} :
    before? tail text = some front ↔ text = front ++ tail := by
  simp only [before?, Option.map_eq_some_iff, after?_eq_some_iff]
  constructor
  · rintro ⟨reversed, equal, rfl⟩
    rw [← List.reverse_reverse text, equal]
    simp
  · rintro rfl
    exact ⟨front.reverse, by simp, by simp⟩

end Text

end Mockup
