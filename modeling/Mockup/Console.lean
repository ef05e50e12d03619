import Mockup.Console.Markup
import Mockup.Console.Width

/-!
# Console output

A console shows lines. Tags and emoji codes count in messages and titles and do not in listings.
Control characters that would move the cursor are left out, and tabs are filled up to the next tab
stop, which is nearer in listings than in messages. A listing ends at the edge of the console.
-/

namespace Mockup.Console

/-- A line with its tabs filled up to stops that are `distance` columns apart, starting in the given
column; `measure` says how many columns a character takes. -/
def fillTabs (measure : Char → Nat) (distance : Nat) : (column : Nat) → Text → Text
  | _, [] => []
  | column, character :: rest =>
    if character = '\t' then
      let gap := distance - column % distance
      List.replicate gap ' ' ++ fillTabs measure distance (column + gap) rest
    else character :: fillTabs measure distance (column + measure character) rest

/-- The lines of a message with tags. -/
def message (text : Text) : List Text :=
  (Text.splitOn '\n' (Markup.read text).shown).map (fillTabs width 8 0)

/-- A title with tags, which keeps to one line. -/
def title (text : Text) : Text :=
  fillTabs width 8 0
    ((Markup.read text).shown.map fun character => if character = '\n' then ' ' else character)

/-- The number of cells in a line of the console. -/
def columns : Nat := 4000

/-- The longest front of a line that fits in some cells. -/
def crop : (cells : Nat) → Text → Text
  | _, [] => []
  | cells, character :: rest =>
    if width character ≤ cells then character :: crop (cells - width character) rest else []

/-- The lines of a listing. -/
def listing (text : Text) : List Text :=
  (Text.splitOn '\n' text).map fun line =>
    crop columns ((fillTabs (fun _ => 1) 4 0 line).filter (!Markup.isDropped ·))

/-- The lines of a row of a table: the cells stand side by side. -/
def row : (left right : List Text) → List Text
  | [], right => right
  | left, [] => left
  | first :: left, second :: right => (first ++ ' ' :: second) :: row left right

end Mockup.Console
