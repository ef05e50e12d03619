import Mockup.Console.Emoji.Names
import Mockup.Text.Case

/-!
# Emoji codes

An emoji can be written as its name between two colons. Behind the name, a hyphen and one of two
words ask for the form in colour or for the form like a letter. Letter case does not matter in a
name. A code with an unknown name stays as it is, and its second colon starts no other code.
-/

namespace Mockup.Emoji

/-- The emoji with a name that is given in lower case. -/
def ofName? : Text → Option Text
  | [] => none
  | first :: rest =>
    ((namesAt first).find? fun (name, _) => name.toList = first :: rest).map
      fun (_, shown) => shown.toList

/-- The words that ask for a form of an emoji, with the characters that select it. -/
def forms : List (Text × Text) :=
  [("-emoji".toList, [Char.ofNat 0xFE0F]), ("-text".toList, [Char.ofNat 0xFE0E])]

/-- What a code stands for, which is given without its colons. -/
def ofCode? (code : Text) : Option Text :=
  let (name, form) :=
    (forms.findSome? fun (word, form) => (Text.before? word code).map fun name => (name, form)).getD
      (code, [])
  (ofName? (Text.lower name)).map (· ++ form)

/-- Replaces the codes in the rest of a text. If a colon stands open, `code` is what follows it, the
last character first. -/
def replaceFrom : (code : Option Text) → Text → Text
  | none, [] => []
  | some code, [] => ':' :: code.reverse
  | none, character :: rest =>
    if character = ':' then replaceFrom (some []) rest else character :: replaceFrom none rest
  | some code, character :: rest =>
    if character = ':' then
      (ofCode? code.reverse).getD (':' :: code.reverse ++ [':']) ++ replaceFrom none rest
    else if Text.isBlank character then ':' :: code.reverse ++ character :: replaceFrom none rest
    else replaceFrom (some (character :: code)) rest

/-- A text with its emoji codes replaced by emoji. -/
def replace (text : Text) : Text :=
  replaceFrom none text

end Mockup.Emoji
