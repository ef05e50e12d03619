import Mockup.Command.Response

/-!
# Running programs

The outcome of a program is what it shows together with the files as they are afterwards. The steps
of a response are taken one after the other; one that fails ends the program, and what the steps
before it have done stays done.
-/

namespace Mockup

/-- What a program results in. -/
structure Outcome where
  exitCode : Nat
  failure : Option Failure
  output : List Text
  events : List Event
  files : FileTree

namespace Outcome

/-- The outcome of a program that a step stops. -/
def stopped (failure : Option Failure) (files : FileTree) : Outcome :=
  ⟨1, failure, [], [], files⟩

/-- An outcome with lines shown before. -/
def shownAfter (lines : List Text) (outcome : Outcome) : Outcome :=
  { outcome with output := lines ++ outcome.output }

/-- An outcome with events logged before. -/
def loggedAfter (events : List Event) (outcome : Outcome) : Outcome :=
  { outcome with events := events ++ outcome.events }

end Outcome

namespace Response

/-- Takes steps in a working directory; the program ends as given if none of them fails. -/
def takeSteps (host : Host) (here : Location) (exitCode : Nat) (failure : Option Failure) :
    FileTree → List Step → Outcome
  | files, [] => ⟨exitCode, failure, [], [], files⟩
  | files, .log events :: steps =>
    (takeSteps host here exitCode failure files steps).loggedAfter events
  | files, .lines shown :: steps =>
    if shown.all host.shows then
      (takeSteps host here exitCode failure files steps).shownAfter shown
    else .stopped none files
  | files, .message text :: steps =>
    match (Markup.read text).fault? with
    | some cause => .stopped (some (.markup cause)) files
    | none =>
      if (Console.message text).all host.shows then
        (takeSteps host here exitCode failure files steps).shownAfter (Console.message text)
      else .stopped none files
  | files, .write path bytes :: steps =>
    match files.write here path ((host.cut? bytes).getD bytes) with
    | (changed, some cause) => .stopped (some (.file cause)) changed
    | (changed, none) =>
      match host.cut? bytes with
      | none => takeSteps host here exitCode failure changed steps
      | some _ => .stopped none changed
  | files, .install :: steps => takeSteps host here exitCode failure (host.install files) steps

/-- Carries out a response in a working directory. -/
def carryOut (host : Host) (here : Location) (files : FileTree) (response : Response) : Outcome :=
  takeSteps host here response.exitCode response.failure files response.steps

end Response

/-- Runs a program with the given arguments in a working directory. -/
def runProgramIn (host : Host) (registry : Registry) (here : Location) (files : FileTree)
    (arguments : List Text) : Outcome :=
  ((host.request arguments).respond host.models registry (files.read here)).carryOut host here files

/-- Runs a program with the given arguments in a working directory that holds the given files and
has nothing around it. The directory gets the empty name, which no path holds. -/
def runProgram (registry : Registry) (files : FileTree) (arguments : List Text) : Outcome :=
  let outcome := runProgramIn .standard registry [[]] (files.under [[]]) arguments
  { outcome with files := outcome.files.below [[]] }

end Mockup
