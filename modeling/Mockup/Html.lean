import Mockup.Text.Entity

/-!
# HTML

Markup is built as a tree and then printed. Only the printer writes angle brackets and quotes, and
it escapes every text and every attribute value, so no text of a document can end up as markup.
-/

namespace Mockup.Html

/-- An attribute of an element. -/
inductive Attribute where
  | value (name : Text) (content : Text)
  /-- An attribute that is either there or not. -/
  | flag (name : Text)
  deriving DecidableEq, Repr

/-- A piece of markup. -/
inductive Node where
  | text (content : Text)
  | element (tag : Text) (attributes : List Attribute) (children : List Node)
  /-- An element that never has content. -/
  | void (tag : Text) (attributes : List Attribute)
  deriving Repr

/-- The class attribute. -/
def classes (value : Text) : Attribute :=
  .value "class".toList value

/-- An element with a class. -/
def styled (tag : String) (className : String) (children : List Node) : Node :=
  .element tag.toList [classes className.toList] children

namespace Attribute

/-- An attribute as it stands in a tag, with a blank in front. -/
def print : Attribute → Text
  | .value name content =>
    ' ' :: name ++ '=' :: '"' :: EntityTable.html.escape content ++ ['"']
  | .flag name => ' ' :: name

end Attribute

namespace Node

mutual

/-- The text of a piece of markup. -/
def print : Node → Text
  | .text content => EntityTable.html.escape content
  | .element tag attributes children =>
    '<' :: tag ++ attributes.flatMap Attribute.print ++ '>' :: printAll children ++
      '<' :: '/' :: tag ++ ['>']
  | .void tag attributes => '<' :: tag ++ attributes.flatMap Attribute.print ++ [' ', '/', '>']

/-- The text of several pieces of markup one after the other. -/
def printAll : List Node → Text
  | [] => []
  | node :: nodes => node.print ++ printAll nodes

end

/-- Pieces of markup with a line feed between each two of them. -/
def lines (nodes : List Node) : List Node :=
  nodes.intersperse (.text ['\n'])

end Node

end Mockup.Html
