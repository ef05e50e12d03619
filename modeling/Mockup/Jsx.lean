import Mockup.Text.Entity
import Mockup.Text.Literal
import Mockup.Text.Split

/-!
# JSX

The markup of generated components. A phrase stays on one line; an element around further lines
puts its tags on lines of their own and indents what is between them; a guard shows an element only
while a state has a given value. As in HTML, only the printer writes tags, quotes and braces.
-/

namespace Mockup.Jsx

/-- An attribute of an element. -/
inductive Attribute where
  /-- The key of an element among its neighbours. -/
  | key (index : Nat)
  | text (name : Text) (content : Text)
  /-- A click calls `setter` with the name of a screen. -/
  | onClick (setter : Text) (screen : Text)
  deriving DecidableEq, Repr

/-- Markup that stays on one line. -/
inductive Phrase where
  | text (content : Text)
  | element (tag : Text) (attributes : List Attribute) (children : List Phrase)
  /-- An element that never has content. -/
  | void (tag : Text) (attributes : List Attribute)
  deriving Repr

/-- Markup that takes whole lines. -/
inductive Node where
  | line (phrase : Phrase)
  | element (tag : Text) (attributes : List Attribute) (children : List Node)
  /-- Shows `body` while the state `state` names the screen `screen`. -/
  | guard (state : Text) (screen : Text) (body : Node)
  deriving Repr

/-- The class attribute. -/
def classes (content : Text) : Attribute :=
  .text "className".toList content

/-- The indentation of a line. -/
def pad (depth : Nat) : Text :=
  List.replicate (2 * depth) ' '

namespace Attribute

/-- An attribute as it stands in a tag, with a blank in front. -/
def print : Attribute → Text
  | .key index => " key=\x7b".toList ++ Text.ofNat index ++ "\x7d".toList
  | .text name content => ' ' :: name ++ '=' :: '"' :: EntityTable.jsx.escape content ++ ['"']
  | .onClick setter screen =>
    " onClick=\x7b() => ".toList ++ setter ++ '(' :: Text.literal screen ++ ")\x7d".toList

end Attribute

/-- An opening tag. -/
def openTag (tag : Text) (attributes : List Attribute) : Text :=
  '<' :: tag ++ attributes.flatMap Attribute.print ++ ['>']

/-- A closing tag. -/
def closeTag (tag : Text) : Text :=
  '<' :: '/' :: tag ++ ['>']

namespace Phrase

mutual

/-- The text of a phrase. -/
def print : Phrase → Text
  | .text content => EntityTable.jsx.escape content
  | .element tag attributes children =>
    openTag tag attributes ++ printAll children ++ closeTag tag
  | .void tag attributes => '<' :: tag ++ attributes.flatMap Attribute.print ++ [' ', '/', '>']

/-- The text of several phrases one after the other. -/
def printAll : List Phrase → Text
  | [] => []
  | phrase :: phrases => phrase.print ++ printAll phrases

end

end Phrase

namespace Node

mutual

/-- The lines of markup that is indented by `depth` levels. -/
def print (depth : Nat) : Node → List Text
  | .line phrase => [pad depth ++ phrase.print]
  | .element tag attributes children =>
    (pad depth ++ openTag tag attributes) :: printAll (depth + 1) children ++
      [pad depth ++ closeTag tag]
  | .guard state screen body =>
    (pad depth ++ '\x7b' :: state ++ " === ".toList ++ Text.literal screen ++ " && (".toList) ::
      body.print (depth + 1) ++ [pad depth ++ ")\x7d".toList]

/-- The lines of several pieces of markup one after the other. -/
def printAll (depth : Nat) : List Node → List Text
  | [] => []
  | node :: nodes => node.print depth ++ printAll depth nodes

end

end Node

end Mockup.Jsx
