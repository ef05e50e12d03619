import Mockup.Control
import Mockup.Inline

/-!
# Items

An item is what a single line of a sketch can hold. Everything that spans several lines is a block
made of items.
-/

namespace Mockup

/-- The level of a heading, one to six. -/
structure HeadingLevel where
  number : Nat
  positive : 1 ≤ number
  atMostSix : number ≤ 6
  deriving DecidableEq, Repr

namespace HeadingLevel

/-- The level with the given number, if there is one. -/
def ofNat? (number : Nat) : Option HeadingLevel :=
  if valid : 1 ≤ number ∧ number ≤ 6 then some ⟨number, valid.1, valid.2⟩ else none

end HeadingLevel

/-- What a line holds. -/
inductive Item where
  | header (level : HeadingLevel) (children : List Inline)
  | text (children : List Inline)
  | control (control : Control)
  /-- A radio group has at least one option: the first one and any number of further ones. -/
  | radioGroup (label : Text) (first : Text) (more : List Text)
  | image (alt : Text) (src : Text)
  /-- Controls that stand side by side. -/
  | row (controls : List Control)
  deriving DecidableEq, Repr

end Mockup
