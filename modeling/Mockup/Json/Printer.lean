import Mockup.Json
import Mockup.Text.Quoted
import Mockup.Text.Split

/-!
# Writing JSON

Two layouts: everything on one line, with a blank behind each comma and colon, and one element a
line with two blanks of indentation per level. Both are pure ASCII: any other character is written
as the hexadecimal code of its UTF-16 units.
-/

namespace Mockup.Json

/-- The escape of one UTF-16 unit. -/
def unitEscape (unit : Nat) : Text :=
  '\\' :: 'u' :: Text.hexDigits 4 unit

/-- A character as it stands in a string. -/
def writeCharacter (character : Char) : Text :=
  let code := character.toNat
  if character = '"' then ['\\', '"']
  else if character = '\\' then ['\\', '\\']
  else if character = '\n' then ['\\', 'n']
  else if character = '\r' then ['\\', 'r']
  else if character = '\t' then ['\\', 't']
  else if code = 0x08 then ['\\', 'b']
  else if code = 0x0C then ['\\', 'f']
  else if 0x20 ≤ code ∧ code < 0x7F then [character]
  else if code < 0x10000 then unitEscape code
  else
    let offset := code - 0x10000
    unitEscape (0xD800 + offset / 0x400) ++ unitEscape (0xDC00 + offset % 0x400)

/-- A text as a JSON string. -/
def writeString (text : Text) : Text :=
  '"' :: text.flatMap writeCharacter ++ ['"']

mutual

/-- A value on one line. -/
def write : Json → Text
  | .null => "null".toList
  | .bool true => "true".toList
  | .bool false => "false".toList
  | .number value => Text.ofInt value
  | .string value => writeString value
  | .array elements => '[' :: Text.joined ", ".toList (writeElements elements) ++ [']']
  | .object members => '\x7b' :: Text.joined ", ".toList (writeMembers members) ++ ['\x7d']

/-- The elements of an array, each on one line. -/
def writeElements : List Json → List Text
  | [] => []
  | element :: elements => element.write :: writeElements elements

/-- The members of an object, each on one line. -/
def writeMembers : List (Text × Json) → List Text
  | [] => []
  | (key, value) :: members =>
    (writeString key ++ ':' :: ' ' :: value.write) :: writeMembers members

end

/-- The start of a line at a level of nesting. -/
def newLine (level : Nat) : Text :=
  '\n' :: List.replicate (2 * level) ' '

/-- Parts between two brackets, each on a line of its own; nothing stands between the brackets of
an empty value. -/
def enclose (opening closing : Char) (level : Nat) (parts : List Text) : Text :=
  match parts with
  | [] => [opening, closing]
  | first :: more =>
    opening :: newLine (level + 1) ++ Text.joined (',' :: newLine (level + 1)) (first :: more) ++
      newLine level ++ [closing]

mutual

/-- A value that starts on a line of the given nesting level, one element a line. -/
def writeIndented (level : Nat) : Json → Text
  | .null => "null".toList
  | .bool true => "true".toList
  | .bool false => "false".toList
  | .number value => Text.ofInt value
  | .string value => writeString value
  | .array elements => enclose '[' ']' level (indentedElements (level + 1) elements)
  | .object members => enclose '\x7b' '\x7d' level (indentedMembers (level + 1) members)

/-- The elements of an array that start on lines of the given nesting level. -/
def indentedElements (level : Nat) : List Json → List Text
  | [] => []
  | element :: elements => element.writeIndented level :: indentedElements level elements

/-- The members of an object that start on lines of the given nesting level. -/
def indentedMembers (level : Nat) : List (Text × Json) → List Text
  | [] => []
  | (key, value) :: members =>
    (writeString key ++ ':' :: ' ' :: value.writeIndented level) :: indentedMembers level members

end

/-- A value one element a line, from the left margin. -/
def pretty (value : Json) : Text :=
  value.writeIndented 0

end Mockup.Json
