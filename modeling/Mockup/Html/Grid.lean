import Mockup.Directives
import Mockup.Text.Number
import Mockup.Text.Split

/-!
# Grid styles

The configuration of a grid is a text of directives. It sets a number of columns and a gap, either
by a word such as `cols-2` or by a setting such as `cols=2`; words win, and of several words the
last one. The number of columns is written as it stands, while the gap is counted in units of four
pixels and has to be computed.
-/

namespace Mockup

namespace Grid

/-- The number text of a word such as `cols-2`. -/
def numbered? (key word : Text) : Option Text := do
  let number ← Text.after? (key ++ ['-']) word
  if number ≠ [] ∧ (Text.decimalValues? number).isSome then some number else none

/-- The number text that directives give for a key: that of the last word for it, or else the
value of the setting. -/
def chosen? (key : Text) (directives : Directives) : Option Text :=
  match directives.words.filterMap (numbered? key) |>.getLast? with
  | some number => some number
  | none => directives.get? key

/-- The number text for a key, if it is made of digits. -/
def digits? (key : Text) (directives : Directives) : Option Text :=
  (chosen? key directives).filter fun number => number ≠ [] ∧ number.all Text.isDigit

/-- The pixels for a gap, which is counted in units of four pixels. -/
def pixels (digits : Text) : Except NumberError Text :=
  match Text.readNumber digits with
  | .error cause => .error cause
  | .ok gap => Text.writeNumber (4 * gap)

/-- The style clause for the columns. -/
def columnsClause (directives : Directives) : List Text :=
  match digits? "cols".toList directives with
  | some number => ["grid-template-columns: repeat(".toList ++ number ++ ", 1fr)".toList]
  | none => []

/-- The style clause for the gap. -/
def gapClause (directives : Directives) : Except NumberError (List Text) :=
  match digits? "gap".toList directives with
  | some number => (pixels number).map fun pixels => ["gap: ".toList ++ pixels ++ "px".toList]
  | none => .ok []

/-- The inline style for the configuration of a grid; one that cannot be read has none. -/
def style (config : Text) : Except NumberError Text :=
  match Directives.read config with
  | .error _ => .ok []
  | .ok directives =>
    (gapClause directives).map fun gap =>
      Text.joined "; ".toList (columnsClause directives ++ gap)

end Grid

end Mockup
