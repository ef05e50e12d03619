import Mockup.Text.Basic
import Mockup.Text.Split

/-!
# Actions

A tag may name an action with arguments in brackets. The arguments are literals: numbers, quoted
text, the three constants, and groups of literals in round or curly brackets. This module says
which arguments can be read; what an action would do does not matter for what is shown.
-/

namespace Mockup.Action

/-- Whether a character may stand between literals. -/
def isGap (character : Char) : Bool :=
  character = ' ' || character = '\t' || character = '\n' || character = '\r' ||
    character.toNat = 0x0C

/-- The rest of a text behind the gap at its start. A number sign starts a comment, which belongs to
the gap up to the end of its line; `comment` says that one has been started. -/
def skipFrom : (comment : Bool) → Text → Text
  | _, [] => []
  | true, character :: rest => skipFrom (character ≠ '\n') rest
  | false, character :: rest =>
    if isGap character then skipFrom false rest
    else if character = '#' then skipFrom true rest
    else character :: rest

/-- The rest of a text behind the gap at its start. -/
def skipGap (text : Text) : Text :=
  skipFrom false text

/-- Whether a character belongs to a name. Beyond the basic Latin alphabet all characters count as
letters. -/
def isNameCharacter (character : Char) : Bool :=
  character.isAlphanum || character = '_' || 0x80 ≤ character.toNat

/-- Whether a text, which may be empty, consists of digits of a base, with single underscores
between them. -/
def areDigits (isDigit : Char → Bool) (text : Text) : Bool :=
  (Text.splitOn '_' text).all fun run => run ≠ [] && run.all isDigit

/-- Whether a text is a whole number with decimal digits; only zero starts with a zero. -/
def isWhole (text : Text) : Bool :=
  areDigits Char.isDigit text && (text.head? ≠ some '0' || text.all fun c => c = '0' || c = '_')

/-- Whether a text is a number of a base that its first two characters give. -/
def isBased : Text → Bool
  | '0' :: base :: digits =>
    let digits := (Text.after? ['_'] digits).getD digits
    if base = 'x' || base = 'X' then
      areDigits (fun c => c.isDigit || ('a' ≤ c && c ≤ 'f') || ('A' ≤ c && c ≤ 'F')) digits
    else if base = 'o' || base = 'O' then areDigits (fun c => '0' ≤ c && c ≤ '7') digits
    else if base = 'b' || base = 'B' then areDigits (fun c => c = '0' || c = '1') digits
    else false
  | _ => false

/-- Whether a text is a number with a point, with digits on at least one side of it. -/
def isPointed (text : Text) : Bool :=
  match Text.spanTo? '.' text with
  | none => false
  | some (whole, fraction) =>
    (whole ≠ [] || fraction ≠ []) && (whole = [] || areDigits Char.isDigit whole) &&
      (fraction = [] || areDigits Char.isDigit fraction)

/-- Whether a text is a number with a power of ten behind it. -/
def isScientific (text : Text) : Bool :=
  let base := text.takeWhile fun c => c ≠ 'e' && c ≠ 'E'
  match text.drop base.length with
  | [] => false
  | _ :: power =>
    let digits := match power with
      | '+' :: digits | '-' :: digits => digits
      | digits => digits
    (areDigits Char.isDigit base || isPointed base) && areDigits Char.isDigit digits

/-- Whether a text is a number on the imaginary axis. -/
def isImaginary (text : Text) : Bool :=
  match text.reverse with
  | unit :: number =>
    (unit = 'j' || unit = 'J') &&
      (areDigits Char.isDigit number.reverse || isPointed number.reverse ||
        isScientific number.reverse)
  | [] => false

/-- Whether a text is a number on the real axis. -/
def isReal (text : Text) : Bool :=
  isWhole text || isBased text || isPointed text || isScientific text

/-- The longest front of a text that may be a number, and the rest. A sign belongs to it behind the
mark of a power of ten. -/
def cutNumber : Text → Text × Text
  | [] => ([], [])
  | mark :: sign :: rest =>
    if (mark = 'e' || mark = 'E') && (sign = '+' || sign = '-') then
      let (number, rest) := cutNumber rest
      (mark :: sign :: number, rest)
    else if isNameCharacter mark || mark = '.' then
      let (number, rest) := cutNumber (sign :: rest)
      (mark :: number, rest)
    else ([], mark :: sign :: rest)
  | [mark] => if isNameCharacter mark || mark = '.' then ([mark], []) else ([], [mark])

/-- What follows a number, to which an imaginary part may be added. -/
def afterNumber? (text : Text) : Option Text :=
  let (number, rest) := cutNumber (skipGap text)
  if isImaginary number then some rest
  else if !isReal number then none
  else
    match skipGap rest with
    | '+' :: more | '-' :: more =>
      let (imaginary, rest) := cutNumber (skipGap more)
      if isImaginary imaginary then some rest else none
    | _ => some rest

/-- What follows a quoted text that `stop` ends, if it does; a backslash keeps the next character
from ending it. -/
def afterQuoted? (stop : Text) : Text → Option Text
  | [] => none
  | character :: rest =>
    match Text.after? stop (character :: rest) with
    | some behind => some behind
    | none =>
      if character = '\\' then
        match rest with
        | [] => none
        | _ :: rest => afterQuoted? stop rest
      else if character = '\n' && stop.length = 1 then none
      else afterQuoted? stop rest

/-- What follows a text between single or triple quotes. -/
def afterText? : Text → Option Text
  | quote :: rest =>
    if quote = '\'' || quote = '"' then
      match Text.after? [quote, quote] rest with
      | some inner => afterQuoted? [quote, quote, quote] inner
      | none => afterQuoted? [quote] rest
    else none
  | [] => none

/-- The words that may stand right in front of a quote, and whether they make the text one of
bytes. -/
def textMarks : List (Text × Bool) :=
  [([], false), (['r'], false), (['u'], false), (['b'], true), (['b', 'r'], true),
    (['r', 'b'], true)]

/-- What follows a quoted text with a mark in front of it, and whether it is one of bytes. -/
def afterMarked? (text : Text) : Option (Bool × Text) := do
  let mark := text.takeWhile isNameCharacter
  let bytes ← textMarks.lookup (mark.map Char.toLower)
  let behind ← afterText? (text.drop mark.length)
  some (bytes, behind)

/-- What follows quoted texts that stand side by side. Either all of them are texts of bytes or
none is. -/
def afterTexts? (bytes : Bool) : (fuel : Nat) → Text → Option Text
  | 0, _ => none
  | fuel + 1, text =>
    match afterMarked? (skipGap text) with
    | none => some text
    | some (other, behind) => if other = bytes then afterTexts? bytes fuel behind else none

/-- The names that are literals. -/
def constants : List Text :=
  ["None".toList, "True".toList, "False".toList]

mutual

/-- What follows a literal. -/
def afterLiteral? : (fuel : Nat) → Text → Option Text
  | 0, _ => none
  | fuel + 1, text =>
    match skipGap text with
    | [] => none
    | '(' :: rest => afterItems? fuel ')' false (skipGap rest)
    | '\x7b' :: rest =>
      match skipGap rest with
      | '\x7d' :: rest => some rest
      | rest => do
        let behind ← afterLiteral? fuel rest
        match skipGap behind with
        | ':' :: _ => afterItems? fuel '\x7d' true rest
        | _ => afterItems? fuel '\x7d' false rest
    | '.' :: '.' :: '.' :: rest => some rest
    | '+' :: rest | '-' :: rest => afterNumber? rest
    | first :: rest =>
      if first.isDigit || first = '.' then afterNumber? (first :: rest)
      else
        match afterMarked? (first :: rest) with
        | some (bytes, behind) => afterTexts? bytes fuel behind
        | none =>
          let word := (first :: rest).takeWhile isNameCharacter
          if constants.contains word then some ((first :: rest).drop word.length) else none

/-- What follows literals that commas separate and `stop` ends; each has a value behind a colon if
`paired` says so. -/
def afterItems? : (fuel : Nat) → (stop : Char) → (paired : Bool) → Text → Option Text
  | 0, _, _, _ => none
  | fuel + 1, stop, paired, text =>
    if text.head? = some stop then some text.tail
    else do
      let behind ← afterLiteral? fuel text
      let behind ← if paired then
          match skipGap behind with
          | ':' :: value => afterLiteral? fuel value
          | _ => none
        else some behind
      match skipGap behind with
      | ',' :: rest => afterItems? fuel stop paired (skipGap rest)
      | rest => if rest.head? = some stop then some rest.tail else none

end

/-- Whether a text is a literal, or several that commas separate. -/
def isLiteral (text : Text) : Bool :=
  text ≠ [] && text.head? ≠ some ',' &&
    afterItems? (2 * text.length + 4) ')' false (skipGap text ++ ['\n', ')']) = some []

/-- Whether the arguments of an action can be read. An action may be named without arguments, and
arguments may stand without a name. -/
def isReadable (text : Text) : Bool :=
  let text := Text.trim text
  let rest := text.dropWhile fun character => isNameCharacter character || character = '.'
  rest = [] ||
    (if rest.head? = some '(' && rest.getLast? = some ')' && Text.oneLine rest then isLiteral rest
    else isLiteral text)

end Mockup.Action
