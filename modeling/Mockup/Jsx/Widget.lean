import Mockup.Block
import Mockup.Text.Split

/-!
# Widgets

Generated components are built from widgets of a component library. A widget may come with further
names for its parts; all of them are imported on one line.
-/

namespace Mockup

/-- The parts of generated code that are imported. -/
inductive Widget where
  | button
  | input
  | textarea
  | card
  | checkbox
  | radioGroup
  | select
  | table
  | label
  deriving DecidableEq, Repr

namespace Widget

/-- The widgets in the order in which they are imported. -/
def all : List Widget :=
  [.button, .input, .textarea, .card, .checkbox, .radioGroup, .select, .table, .label]

/-- The names that come with a widget, its own one first. -/
def exports : Widget → List Text
  | .button => ["Button".toList]
  | .input => ["Input".toList]
  | .textarea => ["Textarea".toList]
  | .card =>
    ["Card".toList, "CardHeader".toList, "CardTitle".toList, "CardContent".toList]
  | .checkbox => ["Checkbox".toList]
  | .radioGroup => ["RadioGroup".toList, "RadioGroupItem".toList]
  | .select =>
    ["Select".toList, "SelectContent".toList, "SelectItem".toList, "SelectTrigger".toList,
      "SelectValue".toList]
  | .table =>
    ["Table".toList, "TableHeader".toList, "TableBody".toList, "TableRow".toList,
      "TableHead".toList, "TableCell".toList]
  | .label => ["Label".toList]

/-- The file that a widget comes from. -/
def file : Widget → Text
  | .button => "button".toList
  | .input => "input".toList
  | .textarea => "textarea".toList
  | .card => "card".toList
  | .checkbox => "checkbox".toList
  | .radioGroup => "radio-group".toList
  | .select => "select".toList
  | .table => "table".toList
  | .label => "label".toList

/-- The line that imports a widget. -/
def importLine (widget : Widget) : Text :=
  "import \x7b ".toList ++ Text.joined ", ".toList widget.exports ++
    " \x7d from \"@/components/ui/".toList ++ widget.file ++ "\";".toList

/-- The widgets that a kind of node is made of. -/
def ofKind : Kind → List Widget
  | .button => [.button]
  | .input => [.input, .label]
  | .textarea => [.textarea, .label]
  | .card => [.card]
  | .checkbox => [.checkbox, .label]
  | .radioGroup => [.radioGroup, .label]
  | .dropdown => [.select, .label]
  | .table => [.table]
  | _ => []

/-- The widgets that a list of blocks is made of, in the order in which they are imported. -/
def usedIn (blocks : List Block) : List Widget :=
  let kinds := Block.kindsOf blocks
  all.filter fun widget => kinds.any fun kind => (ofKind kind).contains widget

end Widget

end Mockup
