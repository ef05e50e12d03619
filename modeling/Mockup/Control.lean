import Mockup.Text.Basic

/-!
# Controls

The parts of a sketch that a user would operate: input fields, text areas, drop-down lists, check
boxes and buttons. Several of them may stand side by side on one line.
-/

namespace Mockup

/-- What an input field takes. -/
inductive InputKind where
  | text
  | password
  deriving DecidableEq, Repr

/-- The two looks of a button. -/
inductive ButtonVariant where
  /-- Filled, for the main action. -/
  | primary
  /-- Only outlined. -/
  | outline
  deriving DecidableEq, Repr

/-- A button, with its style classes and the screen it leads to. -/
structure Button where
  content : Text
  variant : ButtonVariant
  className : Option Text
  navigateTo : Option Text
  deriving DecidableEq, Repr

/-- A field or a button. -/
inductive Control where
  | input (label : Text) (kind : InputKind)
  | textarea (label : Text)
  | dropdown (label : Text) (options : Option (List Text))
  | checkbox (label : Text)
  | button (button : Button)
  deriving DecidableEq, Repr

/-- The word for an input kind in every output. -/
def InputKind.name : InputKind → Text
  | .text => "text".toList
  | .password => "password".toList

/-- The word for a button variant in every output. -/
def ButtonVariant.name : ButtonVariant → Text
  | .primary => "default".toList
  | .outline => "outline".toList

end Mockup
