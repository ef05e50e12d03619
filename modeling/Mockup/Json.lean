import Mockup.Text.Basic

/-!
# JSON values

The values of the data format that documents are exchanged in. The members of an object keep
their order, because it is the order in which they are written.
-/

namespace Mockup

/-- A JSON value; all numbers in use are whole. -/
inductive Json where
  | null
  | bool (value : Bool)
  | number (value : Int)
  | string (value : Text)
  | array (elements : List Json)
  | object (members : List (Text × Json))
  deriving Inhabited, Repr

namespace Json

/-- The text of a string. -/
def text? : Json → Option Text
  | .string value => some value
  | _ => none

/-- The elements of an array. -/
def elements? : Json → Option (List Json)
  | .array elements => some elements
  | _ => none

/-- The texts of an array of strings. -/
def texts? (value : Json) : Option (List Text) :=
  value.elements?.bind fun elements => elements.mapM text?

end Json

end Mockup
