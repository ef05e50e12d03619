import Mockup.Control.Field

/-!
# Line checks

In strict reading a line that would only be text is checked for signs that it was meant as
something else. The checks are kept in a registry under their names; registering a name again
replaces the check and keeps its place.
-/

namespace Mockup

/-- What a check says about a line. -/
structure Verdict where
  passed : Bool
  message : Text
  deriving DecidableEq, Repr

/-- A check, with the description that it is listed under. -/
structure Check where
  description : Option Text
  run : Text → Verdict

namespace Check

/-- Square brackets have to be balanced in number. -/
def brackets : Check where
  description := some "Check that square brackets are balanced.".toList
  run line :=
    let opened := line.count '['
    let closed := line.count ']'
    if opened = closed then ⟨true, "Brackets balanced".toList⟩
    else
      ⟨false, "unbalanced brackets (".toList ++ Text.ofNat opened ++ " '[' vs ".toList ++
        Text.ofNat closed ++ " ']')".toList⟩

/-- A line must not be a closer. -/
def strayCloser : Check where
  description :=
    some "Check that the line is not a closer with no open container of its kind.".toList
  run line :=
    let content := Text.trim line
    if content = "]".toList ∨ content = "--]".toList then
      ⟨false, "closing delimiter '".toList ++ content ++ "' has no matching opener".toList⟩
    else ⟨true, "No stray closer".toList⟩

/-- The field marker that a text starts with. -/
def markerAt? (text : Text) : Option Text :=
  [Field.textareaMark, Field.textMark, Field.passwordMark, Field.dropdownMark, Field.checkboxMark,
    Field.radioMark].find? fun marker => (Text.after? marker text).isSome

/-- The first field marker behind a blank. -/
def markerBehindBlank? : Text → Option Text
  | [] => none
  | character :: rest =>
    (if Text.isBlank character then markerAt? rest else none).or (markerBehindBlank? rest)

/-- The first field marker at the start of a line or behind a blank. -/
def danglingMarker? (line : Text) : Option Text :=
  (markerAt? line).or (markerBehindBlank? line)

/-- No field marker may stand at the start of a line or behind a blank. -/
def danglingMarker : Check where
  description :=
    some "Check that no field marker is left over on a line that is not a field.".toList
  run line :=
    match danglingMarker? line with
    | some marker => ⟨false, "field marker '".toList ++ marker ++ "' without a valid field".toList⟩
    | none => ⟨true, "No dangling field marker".toList⟩

/-- A line must not start like an image. -/
def malformedImage : Check where
  description := some "Check that a line starting like an image is a complete image.".toList
  run line :=
    if (Text.after? ['!', '['] (Text.trimStart line)).isSome then
      ⟨false, "malformed image, expected ![alt](src)".toList⟩
    else ⟨true, "Not an image".toList⟩

/-- A check that fails with `message` on the lines that hold `needle`. -/
def forbid (needle message : Text) (description : Option Text) : Check where
  description := description
  run line := ⟨!Text.holds needle line, message⟩

end Check

/-- The registered checks, by name. -/
abbrev Registry := List (Text × Check)

namespace Registry

/-- The checks that are always there. -/
def builtin : Registry :=
  [("unbalanced_brackets".toList, Check.brackets), ("stray_closer".toList, Check.strayCloser),
    ("dangling_field_marker".toList, Check.danglingMarker),
    ("malformed_image".toList, Check.malformedImage)]

/-- The names of the registered checks. -/
def names (registry : Registry) : List Text :=
  registry.map Prod.fst

/-- The check of the given name. -/
def get? (registry : Registry) (name : Text) : Option Check :=
  registry.lookup name

/-- Registers a check. -/
def register (name : Text) (check : Check) : Registry → Registry
  | [] => [(name, check)]
  | (other, old) :: registry =>
    if other = name then (name, check) :: registry else (other, old) :: register name check registry

/-- The messages of the checks that fail on a line: those with the given names, in that order, or
all of them. Names that are not registered are skipped. -/
def failures (registry : Registry) (selected : Option (List Text)) (line : Text) : List Text :=
  (selected.getD registry.names).filterMap fun name => do
    let check ← registry.get? name
    let verdict := check.run line
    if verdict.passed then none else some verdict.message

end Registry

end Mockup
