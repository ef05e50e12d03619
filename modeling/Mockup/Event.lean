import Mockup.Block
import Mockup.Diagnostic
import Mockup.Directives
import Mockup.Item.Reader
import Mockup.Text.Quoted

/-!
# Log events

What the library logs while it works. An event has a severity, the part of the library it comes
from, a template and the arguments for it. In a template `%d` and `%s` stand for an argument as it
is and `%r` for a quoted one.
-/

namespace Mockup

/-- The severities of log events. -/
inductive Severity where
  | notSet
  | debug
  | info
  | warning
  | error
  | critical
  deriving DecidableEq, Repr

/-- The parts of the library that log. -/
inductive Channel where
  /-- Deciding what a single line holds. -/
  | items
  /-- Building a document from its lines. -/
  | reading
  /-- The command line. -/
  | command
  deriving DecidableEq, Repr

/-- An argument of a log template. -/
inductive Argument where
  | number (value : Nat)
  | text (value : Text)
  | fault (value : DirectiveError)
  deriving DecidableEq, Repr

/-- What happened. -/
inductive Event where
  /-- A rule read a line. -/
  | classified (line : Text) (rule : Rule)
  /-- No rule read a line, so it is text. -/
  | fellBack (line : Text)
  /-- A line opens a box where no more may be opened. -/
  | tooDeep (line : Nat)
  /-- A workflow is opened with a text that is not made of directives. -/
  | badDirectives (line : Nat) (fault : DirectiveError)
  /-- A block that starts on a line is left out, because only screens stand in workflows. -/
  | dropped (kind : Kind) (line : Nat)
  /-- A box that was opened on a line is still open at the end. -/
  | unterminated (kind : Kind) (line : Nat)
  /-- A document was rendered from a file. -/
  | rendered (blocks : Nat) (path : Text)
  deriving DecidableEq, Repr

namespace Severity

/-- The usual number of a severity; a higher one is more severe. -/
def rank : Severity → Nat
  | .notSet => 0
  | .debug => 10
  | .info => 20
  | .warning => 30
  | .error => 40
  | .critical => 50

/-- The name of a severity. -/
def name : Severity → Text
  | .notSet => "NOTSET".toList
  | .debug => "DEBUG".toList
  | .info => "INFO".toList
  | .warning => "WARNING".toList
  | .error => "ERROR".toList
  | .critical => "CRITICAL".toList

end Severity

namespace Event

/-- How severe an event is: what changes the result is a warning. -/
def severity : Event → Severity
  | .tooDeep _ | .badDirectives .. | .dropped .. => .warning
  | _ => .debug

/-- The part of the library that an event comes from. -/
def channel : Event → Channel
  | .classified .. | .fellBack _ => .items
  | .rendered .. => .command
  | _ => .reading

/-- The template of an event. -/
def template : Event → Text
  | .classified .. => "Classified %r as %s".toList
  | .fellBack _ => "No rule matched %r, falling back to text".toList
  | .tooDeep _ => "Nesting deeper than %d on line %d, reading opener as a line".toList
  | .badDirectives .. => "Ignoring invalid workflow directives on line %d: %s".toList
  | .dropped .. => "Dropping %s on line %d: workflows only hold screens".toList
  | .unterminated .. => "Unterminated %s from line %d closed at end of input".toList
  | .rendered .. => "Rendered %d top-level nodes from %s".toList

/-- The arguments of an event, in the order of the template. -/
def arguments : Event → List Argument
  | .classified line rule => [.text line, .text rule.name]
  | .fellBack line => [.text line]
  | .tooDeep line => [.number nestingLimit, .number line]
  | .badDirectives line fault => [.number line, .fault fault]
  | .dropped kind line => [.text kind.name, .number line]
  | .unterminated kind line => [.text kind.name, .number line]
  | .rendered blocks path => [.number blocks, .text path]

/-- An argument as it is shown in place of the directive `letter`. -/
def showArgument (letter : Char) : Argument → Text
  | .number value => Text.ofNat value
  | .text value => if letter = 'r' then Text.quoted value else value
  | .fault (.misplacedEquals position) =>
    "misplaced '=' in column ".toList ++ Text.ofNat position.column
  | .fault (.strayBlank position) => "stray blank in column ".toList ++ Text.ofNat position.column

/-- Puts arguments in the places that a template has for them. -/
def fill : (template : Text) → List Argument → Text
  | '%' :: letter :: rest, argument :: arguments =>
    showArgument letter argument ++ fill rest arguments
  | character :: rest, arguments => character :: fill rest arguments
  | [], _ => []

/-- The text of an event. -/
def message (event : Event) : Text :=
  fill event.template event.arguments

end Event

end Mockup
