import Mockup.Event
import Mockup.Text.Quoted

/-!
# Logging setup

A program that uses the library decides from which severity on events are shown on its console.
Setting this up again replaces the console handler and leaves other handlers alone. The log of the
grammar tools is kept at warnings, since it is of no use to the users of a program.
-/

namespace Mockup

namespace Severity

/-- The severities by the names that a setup accepts; two of them have two names. -/
def named : List (Text × Severity) :=
  [("CRITICAL".toList, .critical), ("FATAL".toList, .critical), ("ERROR".toList, .error),
    ("WARNING".toList, .warning), ("WARN".toList, .warning), ("INFO".toList, .info),
    ("DEBUG".toList, .debug), ("NOTSET".toList, .notSet)]

/-- The severity of the given name. -/
def ofName? (word : Text) : Option Severity :=
  named.lookup word

end Severity

/-- How a program logs. -/
structure Logging where
  /-- The least severity that is handled at all. -/
  root : Severity
  /-- The least severities that the console handlers show. -/
  console : List Severity
  /-- The number of other handlers. -/
  others : Nat
  /-- The least severity that the grammar tools log. -/
  grammar : Severity
  deriving DecidableEq, Repr

namespace Logging

/-- The setup of a program that has not set up anything but `others` handlers of its own. -/
def initial (others : Nat) : Logging :=
  ⟨.warning, [], others, .notSet⟩

/-- The number of handlers. -/
def handlers (logging : Logging) : Nat :=
  logging.console.length + logging.others

/-- Shows events from the severity of the given name on. -/
def setup (logging : Logging) (name : Text) : Option Logging :=
  (Severity.ofName? name).map fun severity =>
    { logging with root := severity, console := [severity], grammar := .warning }

/-- The text for a severity that does not exist. -/
def unknownMessage (name : Text) : Text :=
  "Unknown level: ".toList ++ Text.quoted name

/-- The events that are shown from a severity on. -/
def shown (least : Severity) (events : List Event) : List Event :=
  events.filter fun event => least.rank ≤ event.severity.rank

end Logging

end Mockup
