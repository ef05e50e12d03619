import Mockup.Block
import Mockup.Text.Number

/-!
# The states of workflows

Each workflow of a generated component keeps the name of its current screen in a state. The
workflows are numbered in document order, and the states are named after those numbers.
-/

namespace Mockup

/-- The names of a state and of the function that sets it. -/
structure StateNames where
  value : Text
  setter : Text
  deriving DecidableEq, Repr

namespace StateNames

/-- The names with the given number behind them. -/
def numbered (number : Text) : StateNames :=
  ⟨"currentScreen".toList ++ number, "setCurrentScreen".toList ++ number⟩

/-- The names for a workflow, given how many workflows come before it; those of the first one go
without a number. -/
def ofIndex (index : Nat) : StateNames :=
  numbered (if index = 0 then [] else Text.ofNat (index + 1))

/-- The names for any position, as far as its number can be written. -/
def ofPosition (position : Int) : Except NumberError StateNames :=
  if position = 0 then .ok (numbered [])
  else (Text.writeNumber (position + 1)).map numbered

end StateNames

mutual

/-- The initial screens of the workflows in a block, in document order. -/
def Block.initialScreens : Block → List Text
  | .item _ => []
  | .table _ => []
  | .box _ children => Block.initialScreensOf children
  | .screen inner => inner.initialScreens
  | .workflow initial screens => initial :: Screen.initialScreensOf screens

/-- The initial screens of the workflows in a list of blocks. -/
def Block.initialScreensOf : List Block → List Text
  | [] => []
  | block :: blocks => block.initialScreens ++ Block.initialScreensOf blocks

/-- The initial screens of the workflows in a screen. -/
def Screen.initialScreens : Screen → List Text
  | ⟨_, children⟩ => Block.initialScreensOf children

/-- The initial screens of the workflows in a list of screens. -/
def Screen.initialScreensOf : List Screen → List Text
  | [] => []
  | screen :: screens => screen.initialScreens ++ Screen.initialScreensOf screens

end

end Mockup
