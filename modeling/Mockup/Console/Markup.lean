import Mockup.Console.Action
import Mockup.Console.Emoji
import Mockup.Console.Style

/-!
# Markup

A text for the console may hold tags in square brackets, which switch styles on and off and are not
shown themselves. A bracket is part of a tag only if a small letter or one of three signs follows it
and the tag is closed before the next bracket opens. Backslashes in front of a tag escape: each two
of them stand for one, and an odd one makes the tag plain text.
-/

namespace Mockup

/-- A text that is cut at its tags. -/
inductive Markup where
  | plain (text : Text)
  /-- A text, and behind it a tag with the given content. -/
  | tagged (front content : Text) (rest : Markup)
  deriving DecidableEq, Repr

/-- What a tag says. -/
structure Tag where
  name : Text
  parameters : Option Text
  deriving DecidableEq, Repr

/-- Why tags do not fit together. -/
inductive MarkupError where
  /-- A tag closes a style that is not open. -/
  | notOpen (name : Text)
  /-- A tag closes the latest style, and none is open. -/
  | nothingOpen
  /-- The arguments of an action cannot be read. -/
  | badArguments (text : Text)
  /-- A component of a colour is not a number. -/
  | notNumber (cause : NumberError)
  deriving DecidableEq, Repr

namespace Markup

/-- Whether a character can be the first one of a tag. -/
def startsTag (character : Char) : Bool :=
  ('a' ≤ character && character ≤ 'z') || character = '#' || character = '/' || character = '@'

/-- How far a tag has been read. -/
inductive Progress where
  | outside
  /-- A bracket has been opened. -/
  | opened
  /-- The start of a tag, the last character first. -/
  | inside (content : Text)
  deriving DecidableEq, Repr

/-- Cuts the rest of a text at its tags; `front` is what stands before it since the last tag, the
last character first. -/
def readFrom : Progress → (front : Text) → Text → Markup
  | .outside, front, [] => .plain front.reverse
  | .opened, front, [] => .plain ('[' :: front).reverse
  | .inside content, front, [] => .plain (content ++ '[' :: front).reverse
  | .outside, front, character :: rest =>
    if character = '[' then readFrom .opened front rest
    else readFrom .outside (character :: front) rest
  | .opened, front, character :: rest =>
    if startsTag character then readFrom (.inside [character]) front rest
    else if character = '[' then readFrom .opened ('[' :: front) rest
    else readFrom .outside (character :: '[' :: front) rest
  | .inside content, front, character :: rest =>
    if character = ']' then .tagged front.reverse content.reverse (readFrom .outside [] rest)
    else if character = '[' then readFrom .opened (content ++ '[' :: front) rest
    else readFrom (.inside (character :: content)) front rest

/-- Cuts a text at its tags. -/
def read (text : Text) : Markup :=
  readFrom .outside [] text

/-- The number of backslashes at the end of a text. -/
def slashes (text : Text) : Nat :=
  (text.reverse.takeWhile (· = '\\')).length

/-- A text with all its tags escaped. -/
def escaped : Markup → Text
  | .plain text => text
  | .tagged front content rest =>
    front ++ List.replicate (slashes front + 1) '\\' ++ '[' :: content ++ ']' :: rest.escaped

/-- A text with all its tags escaped. A single backslash at its end is doubled, since a tag may
follow. -/
def escape (text : Text) : Text :=
  let result := (read text).escaped
  if slashes result = 1 then result ++ ['\\'] else result

/-- A text between the tags that switch a style on and off. -/
def styled (style : String) (text : Text) : Text :=
  '[' :: style.toList ++ ']' :: text ++ ('[' :: '/' :: style.toList ++ [']'])

/-- Whether a character would ring the bell or move the cursor back, down or to the start. -/
def isDropped (character : Char) : Bool :=
  [0x07, 0x08, 0x0B, 0x0C, 0x0D].contains character.toNat

/-- A text in which brackets that are escaped without need stand alone. -/
def unescape : Text → Text
  | '\\' :: '[' :: rest => '[' :: unescape rest
  | character :: rest => character :: unescape rest
  | [] => []

/-- What is shown of a text between tags. -/
def visible (text : Text) : Text :=
  (Emoji.replace (unescape text)).filter (!isDropped ·)

/-- What is shown. -/
def shown : Markup → Text
  | .plain text => visible text
  | .tagged front content rest =>
    let count := slashes front
    let tag := if count % 2 = 1 then visible ('[' :: content ++ [']']) else []
    visible (front.take (front.length - count)) ++ List.replicate (count / 2) '\\' ++ tag ++
      rest.shown

end Markup

namespace Tag

/-- What the content of a tag says: behind an equals sign there are parameters. -/
def ofContent (content : Text) : Tag :=
  match Text.spanTo? '=' content with
  | some (name, parameters) => ⟨name, some parameters⟩
  | none => ⟨content, none⟩

/-- The style of a tag. -/
def style (tag : Tag) : Text :=
  match tag.parameters with
  | none => tag.name
  | some parameters => tag.name ++ ' ' :: parameters

/-- The latest tag with a name among those that are open, and the others. -/
def takeOut? (name : Text) : List Tag → Option (Tag × List Tag)
  | [] => none
  | tag :: tags =>
    if tag.name = name then some (tag, tags)
    else (takeOut? name tags).map fun (found, others) => (found, tag :: others)

/-- What is wrong with an open tag that is closed. -/
def fault? (tag : Tag) : Option MarkupError :=
  match tag.name, tag.parameters with
  | '@' :: _, some parameters =>
    if parameters = [] || Action.isReadable parameters then none
    else some (.badArguments parameters)
  | _, _ => none

/-- The tag that is closed by one with the given name, and those that stay open. -/
def close (name : Text) (tags : List Tag) : Except MarkupError (Tag × List Tag) :=
  if name = [] then
    match tags with
    | [] => .error .nothingOpen
    | tag :: tags => .ok (tag, tags)
  else
    match Style.normalize name with
    | .error cause => .error (.notNumber cause)
    | .ok name =>
      match takeOut? name tags with
      | none => .error (.notOpen name)
      | some found => .ok found

end Tag

namespace Markup

/-- What is wrong with the tags of a text, given those that are open before it. The styles of tags
are looked at after everything else; those of closed tags are in `styles`. -/
def faultFrom? (tags : List Tag) (styles : List Text) : Markup → Option MarkupError
  | .plain _ => ((tags.map Tag.style ++ styles).findSome? Style.fault?).map .notNumber
  | .tagged front content rest =>
    if slashes front % 2 = 1 then rest.faultFrom? tags styles
    else
      let tag := Tag.ofContent content
      match tag.name with
      | '/' :: name =>
        match Tag.close (Text.trim name) tags with
        | .error cause => some cause
        | .ok (closed, tags) =>
          match closed.fault? with
          | some cause => some cause
          | none => rest.faultFrom? tags (closed.style :: styles)
      | name =>
        match Style.normalize name with
        | .error cause => some (.notNumber cause)
        | .ok name => rest.faultFrom? (⟨name, tag.parameters⟩ :: tags) styles

/-- What is wrong with the tags of a text. -/
def fault? (markup : Markup) : Option MarkupError :=
  markup.faultFrom? [] []

end Markup

end Mockup
