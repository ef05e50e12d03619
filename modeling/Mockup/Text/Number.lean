import Mockup.Text.Digit
import Mockup.Text.Quoted

/-!
# Numbers as text

Whole numbers are read and written with at most `digitLimit` digits. Any decimal digits can be
read, leading zeros counting as digits; they are written with the basic ones.
-/

namespace Mockup

/-- Why a number is not read or written. -/
inductive NumberError where
  /-- A text to be read holds something else than decimal digits. -/
  | notDecimal (text : Text)
  /-- A text to be read has too many digits. -/
  | tooManyDigits (count : Nat)
  /-- A number to be written has too many digits. -/
  | tooLarge
  deriving DecidableEq, Repr

namespace NumberError

/-- The greatest number of digits that a number is read or written with. -/
def digitLimit : Nat := 4300

/-- How much of a text is shown in a message. -/
def shownLimit : Nat := 200

/-- The text of an error. -/
def message : NumberError → Text
  | .notDecimal text =>
    "invalid literal for int() with base 10: ".toList ++ (Text.quoted text).take shownLimit
  | .tooManyDigits count =>
    limit ++ ": value has ".toList ++ Text.ofNat count ++ " digits".toList ++ advice
  | .tooLarge => limit ++ advice
where
  limit : Text :=
    "Exceeds the limit (".toList ++ Text.ofNat digitLimit ++
      " digits) for integer string conversion".toList
  advice : Text := "; use sys.set_int_max_str_digits() to increase the limit".toList

end NumberError

namespace Text

/-- Reads a number that is written in decimal digits. Too many digits in front are noticed before
what follows them. -/
def readNumber (text : Text) : Except NumberError Nat :=
  let leading := (text.takeWhile fun character => (decimalValue? character).isSome).length
  if NumberError.digitLimit < leading then .error (.tooManyDigits leading)
  else
    match decimalValues? text with
    | none | some [] => .error (.notDecimal text)
    | some (first :: more) => .ok (numberOf (first :: more))

/-- Writes a number in decimal digits. -/
def writeNumber (number : Int) : Except NumberError Text :=
  if NumberError.digitLimit < (ofNat number.natAbs).length then .error .tooLarge
  else .ok (ofInt number)

end Text

end Mockup
