import Mockup.Text.Basic

/-!
# Text files

Files hold text in UTF-8. Of the line ends in use, a carriage return with or without a line feed
behind it is read as a line feed; a byte order mark is an ordinary character.
-/

namespace Mockup.Text

/-- The text with a line feed for each line end. -/
def unifyLineEnds : Text → Text
  | [] => []
  | '\r' :: '\n' :: rest => '\n' :: unifyLineEnds rest
  | character :: rest => (if character = '\r' then '\n' else character) :: unifyLineEnds rest

/-- The text of a file, if its bytes are UTF-8. -/
def ofBytes? (bytes : ByteArray) : Option Text :=
  (String.fromUTF8? bytes).map fun content => unifyLineEnds content.toList

/-- The bytes that a text is written to a file as. -/
def toBytes (text : Text) : ByteArray :=
  (String.ofList text).toUTF8

/-- Reading what was written gives the text back, up to its line ends. -/
theorem ofBytes?_toBytes (text : Text) :
    ofBytes? (toBytes text) = some (unifyLineEnds text) := by
  have valid : (String.ofList text).toUTF8.IsValidUTF8 := (String.ofList text).isValidUTF8
  have same : String.fromUTF8 (String.ofList text).toUTF8 valid = String.ofList text := rfl
  simp only [ofBytes?, toBytes, String.fromUTF8?, dif_pos valid, same, Option.map_some,
    String.toList_ofList]

end Mockup.Text
