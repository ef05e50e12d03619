import Mockup.Text.Basic

/-!
# Slugs

A slug is a short identifier made from a label: lower-case letters and digits of the basic Latin
alphabet, with a single hyphen for everything in between.
-/

namespace Mockup.Text

/-- The character of the slug alphabet that a character stands for, if there is one. Besides the
capital letters, the Kelvin sign and the dotted capital I have their lower case in it. -/
def slugCharacter? (character : Char) : Option Char :=
  let code := character.toNat
  if (97 ≤ code && code ≤ 122) || (48 ≤ code && code ≤ 57) then some character
  else if 65 ≤ code && code ≤ 90 then some (Char.ofNat (code + 32))
  else if code = 0x212A then some 'k'
  else if code = 0x130 then some 'i'
  else none

/-- Whether something that is no part of the slug alphabet follows the lower case of a character,
as the combining dot of a dotted capital I does. -/
def hasSlugGap (character : Char) : Bool :=
  character.toNat = 0x130

/-- Writes the slug of the rest of a text. `started` says that a character has been written, `gap`
that something has been left out since then. -/
def slugFrom (started gap : Bool) : Text → Text
  | [] => []
  | character :: rest =>
    match slugCharacter? character with
    | some letter =>
      let written := letter :: slugFrom true (hasSlugGap character) rest
      if started && gap then '-' :: written else written
    | none => slugFrom started true rest

/-- The slug of a label. -/
def slug (text : Text) : Text :=
  slugFrom false false text

end Mockup.Text
