import Mockup.Text.Basic

/-!
# Inline text

Headings, card titles and text lines are made of inline nodes: plain runs, bold and italic ones. A
bold node either has a content of its own or wraps italic runs.
-/

namespace Mockup

/-- A node of running text. -/
inductive Inline where
  /-- A plain run. -/
  | text (content : Text)
  /-- An italic run. -/
  | italic (content : Text)
  /-- A bold run, or bold around italic runs, which are given by their contents. -/
  | bold (content : Option Text) (italics : Option (List Text))
  deriving DecidableEq, Repr, Inhabited

namespace Inline

/-- The notation for a node: asterisks for bold, underscores for italic, both for bold italic. -/
def source : Inline → Text
  | .text content => content
  | .italic content => '_' :: content ++ ['_']
  | .bold _ (some (first :: more)) =>
    (first :: more).flatMap fun content => '_' :: '*' :: content ++ ['*', '_']
  | .bold content _ => '*' :: content.getD [] ++ ['*']

/-- The text that a reader of the rendered node sees. -/
def visible : Inline → Text
  | .text content => content
  | .italic content => content
  | .bold _ (some (first :: more)) => (first :: more).flatten
  | .bold content _ => content.getD []

end Inline

end Mockup
