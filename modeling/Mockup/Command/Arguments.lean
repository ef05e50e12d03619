import Mockup.Command.Path
import Mockup.Compile

/-!
# Command-line arguments

The arguments name a command, with options before and after it. A long option may have its value
behind an equals sign or in the next argument; short options may be run together, and the last of
them may have its value in the same argument or in the next one. Everything behind a double hyphen
is taken as it is. Besides, there are options that ask for help and for shell completion; these
count before any command is looked at.
-/

namespace Mockup

/-- The options of all commands, whether they take a value or not. -/
inductive Switch where
  | verbose
  | out
  | strict
  | preserveWhitespace
  | target
  | check
  | help
  | installCompletion
  | showCompletion
  deriving DecidableEq, Repr

/-- How an option is written. -/
structure SwitchForm where
  switch : Switch
  long : Text
  short : Option Char
  takesValue : Bool
  deriving DecidableEq, Repr

/-- Why arguments are not understood. -/
inductive UsageError where
  | unknownOption (argument : Text)
  | missingValue (switch : Switch)
  | unexpectedValue (switch : Switch)
  | missingCommand
  | unknownCommand (name : Text)
  | missingSource
  | extraArgument (argument : Text)
  | unknownTarget (name : Text)
  /-- A path holds the character with the code zero. -/
  | badPath (argument : Text)
  deriving DecidableEq, Repr

/-- What a command is given: options in the order in which they occur, each with its value, and
other arguments. -/
structure Given where
  options : List (Switch × Text)
  others : List Text
  deriving DecidableEq, Repr

/-- A command with its options. -/
inductive Command where
  | parse (source : Path) (out : Option Path) (strict preserveWhitespace : Bool)
  | render (source : Path) (target : Target) (out : Option Path) (strict preserveWhitespace : Bool)
  | tree (source : Path)
  | check (source : Path) (checks : List Text)
  | listChecks
  deriving DecidableEq, Repr

/-- A command, and whether everything it does is logged. -/
structure Invocation where
  verbose : Bool
  command : Command
  deriving DecidableEq, Repr

/-- What arguments ask for. -/
inductive Request where
  | run (invocation : Invocation)
  /-- Help or the script for shell completion, which are only shown. -/
  | inform
  /-- Completion is to be set up in the files of a shell. -/
  | install
  | refuse (cause : UsageError)
  deriving DecidableEq, Repr

namespace SwitchForm

/-- The option for a detailed log, which stands before the command. -/
def verbose : SwitchForm := ⟨.verbose, "--verbose".toList, some 'v', false⟩

/-- The option for the file that output is written to. -/
def out : SwitchForm := ⟨.out, "--out".toList, some 'o', true⟩

/-- The option for strict reading. -/
def strict : SwitchForm := ⟨.strict, "--strict".toList, none, false⟩

/-- The option that keeps the blanks around lines. -/
def preserveWhitespace : SwitchForm :=
  ⟨.preserveWhitespace, "--preserve-whitespace".toList, none, false⟩

/-- The option for the target to render to. -/
def target : SwitchForm := ⟨.target, "--target".toList, some 't', true⟩

/-- The option for a check to run, which may be repeated. -/
def check : SwitchForm := ⟨.check, "--check".toList, some 'c', true⟩

/-- The option for help, which every command has as well. -/
def help : SwitchForm := ⟨.help, "--help".toList, none, false⟩

def installCompletion : SwitchForm :=
  ⟨.installCompletion, "--install-completion".toList, none, false⟩

def showCompletion : SwitchForm := ⟨.showCompletion, "--show-completion".toList, none, false⟩

end SwitchForm

namespace Given

/-- Nothing is given. -/
def empty : Given := ⟨[], []⟩

/-- Options in front of what is given. -/
def addOptions (options : List (Switch × Text)) (given : Given) : Given :=
  { given with options := options ++ given.options }

/-- Whether an option is given. -/
def has (given : Given) (switch : Switch) : Bool :=
  given.options.any fun (other, _) => other = switch

/-- The values that are given for an option. -/
def values (given : Given) (switch : Switch) : List Text :=
  given.options.filterMap fun (other, value) => if other = switch then some value else none

/-- The last value that is given for an option. -/
def value? (given : Given) (switch : Switch) : Option Text :=
  (given.values switch).getLast?

end Given

namespace Arguments

/-- Options that were read from an argument, and one whose value is still to come. -/
abbrev Found := List (Switch × Text) × Option Switch

/-- Reads short options that are run together. -/
def readShort (forms : List SwitchForm) (argument : Text) : Text → Except UsageError Found
  | [] => .ok ([], none)
  | letter :: letters =>
    match forms.find? fun form => form.short = some letter with
    | none => .error (.unknownOption argument)
    | some form =>
      if form.takesValue then
        .ok (if letters = [] then ([], some form.switch) else ([(form.switch, letters)], none))
      else
        (readShort forms argument letters).map fun (options, pending) =>
          ((form.switch, []) :: options, pending)

/-- Reads an argument that starts with a hyphen. -/
def readOption (forms : List SwitchForm) (argument : Text) : Except UsageError Found :=
  let (name, value) := match Text.spanTo? '=' argument with
    | some (name, value) => (name, some value)
    | none => (argument, none)
  match forms.find? fun form => form.long = name with
  | some form =>
    match form.takesValue, value with
    | true, some value => .ok ([(form.switch, value)], none)
    | true, none => .ok ([], some form.switch)
    | false, none => .ok ([(form.switch, [])], none)
    | false, some _ => .error (.unexpectedValue form.switch)
  | none =>
    match argument with
    | _ :: '-' :: _ => .error (.unknownOption argument)
    | _ :: letters => readShort forms argument letters
    | [] => .error (.unknownOption argument)

/-- Whether an argument is an option; a hyphen alone is not. -/
def isOption : Text → Bool
  | '-' :: _ :: _ => true
  | _ => false

/-- Reads arguments. Options may stand between the other arguments if `mixed` says so; otherwise
everything from the first other argument on is taken as it is. -/
def read (forms : List SwitchForm) (mixed : Bool) : List Text → Except UsageError Given
  | [] => .ok .empty
  | argument :: rest =>
    if argument = "--".toList then .ok ⟨[], rest⟩
    else if isOption argument then
      match readOption forms argument with
      | .error cause => .error cause
      | .ok (options, none) => (read forms mixed rest).map (Given.addOptions options)
      | .ok (options, some pending) =>
        match rest with
        | [] => .error (.missingValue pending)
        | value :: rest =>
          (read forms mixed rest).map (Given.addOptions (options ++ [(pending, value)]))
    else if mixed then
      (read forms mixed rest).map fun given => { given with others := argument :: given.others }
    else .ok ⟨[], argument :: rest⟩

/-- The path that an argument stands for. -/
def path (argument : Text) : Except UsageError Path :=
  if argument.any (·.toNat = 0) then .error (.badPath argument) else .ok (Path.ofText argument)

/-- The one path that a command is given. -/
def source (given : Given) : Except UsageError Path :=
  match given.others with
  | [] => .error .missingSource
  | [source] => path source
  | source :: extra :: _ => do
    let _ ← path source
    .error (.extraArgument extra)

/-- The target that a command is given, HTML by default. -/
def target (given : Given) : Except UsageError Target :=
  match given.value? .target with
  | none => .ok .html
  | some name =>
    match Target.ofName? name with
    | some target => .ok target
    | none => .error (.unknownTarget name)

/-- The path for output that a command is given. -/
def out (given : Given) : Except UsageError (Option Path) :=
  (given.value? .out).mapM path

/-- Looks at the values of the options that a command is given. Of several unusable values the one
of the option that is mentioned first counts. -/
def validate (given : Given) : Except UsageError Unit :=
  given.options.forM fun (switch, _) =>
    match switch with
    | .out => (out given).map fun _ => ()
    | .target => (target given).map fun _ => ()
    | _ => .ok ()

/-- What an option asks for by itself, if it does. -/
def standing? : Switch → Option Request
  | .help | .showCompletion => some .inform
  | .installCompletion => some .install
  | _ => none

/-- The commands and their options. -/
def commandForms : List (Text × List SwitchForm) :=
  [("parse".toList, [.out, .strict, .preserveWhitespace]),
    ("render".toList, [.target, .out, .strict, .preserveWhitespace]),
    ("tree".toList, []), ("check".toList, [.check]), ("list-checks".toList, [])]

/-- The command with the given name. -/
def command (name : Text) (given : Given) : Except UsageError Command := do
  validate given
  if name = "parse".toList then
    let source ← source given
    let out ← out given
    .ok (.parse source out (given.has .strict) (given.has .preserveWhitespace))
  else if name = "render".toList then
    let source ← source given
    let target ← target given
    let out ← out given
    .ok (.render source target out (given.has .strict) (given.has .preserveWhitespace))
  else if name = "tree".toList then
    let source ← source given
    .ok (.tree source)
  else if name = "check".toList then
    let source ← source given
    .ok (.check source (given.values .check))
  else
    match given.others with
    | [] => .ok .listChecks
    | extra :: _ => .error (.extraArgument extra)

/-- Reads the arguments of a command. -/
def readCommand (verbose : Bool) (name : Text) (arguments : List Text) :
    Except UsageError Request :=
  match commandForms.lookup name with
  | none => .error (.unknownCommand name)
  | some forms => do
    let given ← read (.help :: forms) true arguments
    if given.has .help then .ok .inform
    else
      let command ← command name given
      .ok (.run ⟨verbose, command⟩)

/-- Reads all arguments of a program. -/
def readAll (arguments : List Text) : Except UsageError Request := do
  let given ← read [.verbose, .help, .installCompletion, .showCompletion] false arguments
  match given.options.findSome? fun (switch, _) => standing? switch with
  | some request => .ok request
  | none =>
    match given.others with
    | [] => .error .missingCommand
    | name :: rest => readCommand (given.has .verbose) name rest

/-- What the arguments of a program ask for. -/
def request (arguments : List Text) : Request :=
  match readAll arguments with
  | .ok request => request
  | .error cause => .refuse cause

end Arguments

end Mockup
