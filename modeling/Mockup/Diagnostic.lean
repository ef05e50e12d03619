import Mockup.Text.Split

/-!
# Diagnostics

What strict reading reports about a document, and the wording of the reports. Lines are numbered
from one.
-/

namespace Mockup

/-- The number of boxes that may be open at the same time. -/
def nestingLimit : Nat := 64

/-- A report about a line of a document. -/
inductive Diagnostic where
  /-- The line would only be text, and checks fail on it with the given messages. -/
  | unreadable (line : Nat) (content : Text) (failures : List Text)
  /-- The line opens a workflow, and the text behind the keyword is not made of directives. -/
  | badDirectives (line : Nat) (directives : Text)
  /-- The line opens a box although no more boxes may be open. -/
  | tooDeep (line : Nat)
  /-- The block that starts on the line stands directly in a workflow and is not a screen. -/
  | notAScreen (line : Nat)
  deriving DecidableEq, Repr

namespace Diagnostic

/-- The line that a diagnostic is about. -/
def line : Diagnostic → Nat
  | .unreadable line .. => line
  | .badDirectives line _ => line
  | .tooDeep line => line
  | .notAScreen line => line

/-- What a diagnostic says about its line. -/
def reason : Diagnostic → Text
  | .unreadable _ content failures =>
    "Unable to parse \"".toList ++ content ++ "\" (".toList ++ Text.joined "; ".toList failures ++
      ")".toList
  | .badDirectives _ directives =>
    "Invalid workflow directives \"".toList ++ directives ++ "\"".toList
  | .tooDeep _ => "Nesting deeper than ".toList ++ Text.ofNat nestingLimit ++ " levels".toList
  | .notAScreen _ => "Expected a screen inside workflow".toList

/-- The text of a diagnostic. -/
def message (diagnostic : Diagnostic) : Text :=
  "Line ".toList ++ Text.ofNat diagnostic.line ++ ": ".toList ++ diagnostic.reason

end Diagnostic

end Mockup
