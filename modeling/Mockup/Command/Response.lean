import Mockup.Command.Host
import Mockup.Console
import Mockup.Document.Encoding
import Mockup.Json.Printer
import Mockup.Logging
import Mockup.Outline
import Mockup.Reading
import Mockup.Text.File

/-!
# Responses to commands

A command responds to the content of its source file with steps, which show something, log events or
write a file, and with an exit code. Nothing is done here: a response only says what is to be done,
one step after the other. A step can fail: a file may not be writable, a text to be shown may have
tags that do not fit together, and the console may not take it.
-/

namespace Mockup

/-- What stops a command that has been understood. -/
inductive Failure where
  | file (cause : FileError)
  /-- A file that is to be read is not UTF-8. -/
  | notText
  | preview (cause : PreviewError)
  /-- A text to be shown has tags that do not fit together. -/
  | markup (cause : MarkupError)
  /-- A path holds the character with the code zero. -/
  | badPath
  deriving DecidableEq, Repr

/-- One thing that a command does. -/
inductive Step where
  | log (events : List Event)
  | write (path : Path) (bytes : ByteArray)
  /-- Shows a text with tags. -/
  | message (text : Text)
  /-- Shows lines as they are. -/
  | lines (shown : List Text)
  /-- Sets up shell completion. -/
  | install

/-- What a command responds. -/
structure Response where
  steps : List Step
  exitCode : Nat
  failure : Option Failure

namespace Response

/-- The response of a command that only shows something. -/
def display (shown : List Text) (events : List Event) : Response :=
  ⟨[.log events, .lines shown], 0, none⟩

/-- The response of a command that refuses what it is given. -/
def refuse (events : List Event) (steps : List Step) : Response :=
  ⟨.log events :: steps, 1, none⟩

/-- The response of a command that is stopped. -/
def stop (failure : Failure) (events : List Event) : Response :=
  ⟨[.log events], 1, some failure⟩

/-- The response to arguments that are not understood. -/
def misuse : UsageError → Response
  | .badPath _ => stop .badPath []
  | _ => ⟨[], 2, none⟩

/-- The response that a source does not exist. -/
def missing (source : Path) : Response :=
  refuse [] [.message <| Markup.styled "red" <|
    "Error: File ".toList ++ Markup.escape source.text ++ " not found.".toList]

end Response

/-- The content of a source file, or why it cannot be read. -/
abbrev Content := Except FileError ByteArray

namespace Content

/-- Continues with the document that is read from a source. -/
def andThen (content : Content) (registry : Registry) (options : Options)
    (respond : Reading → Response) : Response :=
  match content with
  | .error cause => .stop (.file cause) []
  | .ok bytes =>
    match Text.ofBytes? bytes with
    | none => .stop .notText []
    | some text => respond (Reading.read options registry text)

end Content

namespace Command

/-- Writes a result to a file, or shows it if there is no file to write to; `more` is done after
either. -/
def deliver (out : Option Path) (written shown : Text) (events : List Event) (more : List Step) :
    Response :=
  match out with
  | none => ⟨.log events :: .lines (Console.listing shown) :: more, 0, none⟩
  | some path =>
    let notice := Markup.styled "green" ("Wrote ".toList ++ Markup.escape path.text)
    ⟨.log events :: .write path (Text.toBytes written) :: .message notice :: more, 0, none⟩

/-- Delivers the JSON form of a document, if there is one, and shows its diagnostics. -/
def respondParse (models : ModelLibrary) (out : Option Path) (reading : Reading) : Response :=
  match models.write reading.document with
  | none => .refuse reading.events []
  | some json =>
    deliver out (json.pretty ++ ['\n']) json.pretty reading.events <|
      (reading.document.errors.getD []).map fun error =>
        .message (Markup.styled "yellow" (Markup.escape error))

/-- Delivers the rendered form of a document. -/
def respondRender (source : Path) (target : Target) (out : Option Path) (reading : Reading) :
    Response :=
  match reading.document.compileTo target (some source.text) with
  | .error (.refused first more place) =>
    let heading := Markup.styled "red" <|
      "Compilation error: ".toList ++
        Markup.escape (CompileError.refusedMessage first more place)
    .refuse reading.events <| .message heading :: (first :: more).map fun error =>
      .message ("  - ".toList ++ Markup.escape error)
  | .error (.noPreview cause) => .stop (.preview cause) reading.events
  | .ok compiled =>
    deliver out compiled.output compiled.output reading.events
      [.log [.rendered compiled.blockCount source.text]]

/-- Shows the outline of a document. -/
def respondTree (source : Path) (reading : Reading) : Response :=
  .display ((reading.document.outline source.name).lines.flatMap Console.message) reading.events

/-- Shows the diagnostics of a document. -/
def respondCheck (source : Path) (reading : Reading) : Response :=
  let place := Console.title (Markup.escape source.text)
  match reading.document.errors.getD [] with
  | [] => .display [place, "NO ISSUES FOUND".toList] reading.events
  | first :: more =>
    let rows := ((first :: more).mapIdx fun i error =>
      Console.row [Text.ofNat (i + 1)] (Console.message (Markup.escape error))).flatten
    let count := Text.ofNat (more.length + 1) ++ " ISSUE(S) FOUND".toList
    .refuse reading.events
      [.lines (["Diagnostics".toList, "# Message".toList] ++ rows ++ [place, count])]

/-- Whether a character ends a line of a description. -/
def endsLine (character : Char) : Bool :=
  [0x0A, 0x0B, 0x0C, 0x0D, 0x1C, 0x1D, 0x1E, 0x85, 0x2028, 0x2029].contains character.toNat

/-- The first line of a description. -/
def headline (description : Option Text) : Text :=
  (Text.trim (description.getD [])).takeWhile (!endsLine ·)

/-- Lists the registered checks. Names and descriptions are shown as they are registered, so that
they may have tags. -/
def respondListChecks (registry : Registry) : Response :=
  let cells := registry.map fun (name, registered) => (name, headline registered.description)
  match (cells.map (·.1) ++ cells.map (·.2)).findSome? fun text => (Markup.read text).fault? with
  | some cause => .stop (.markup cause) []
  | none =>
    let rows := cells.flatMap fun (name, description) =>
      Console.row (Console.message name) (Console.message description)
    .display (["Strict Checks".toList, "ID Description".toList] ++ rows) []

/-- The source that a command reads. -/
def source? : Command → Option Path
  | .parse source .. => some source
  | .render source .. => some source
  | .tree source => some source
  | .check source _ => some source
  | .listChecks => none

/-- The response of a command to the content of a source that exists. -/
def respondTo (models : ModelLibrary) (registry : Registry) (content : Content) :
    Command → Response
  | .parse _ out strict preserveWhitespace =>
    content.andThen registry ⟨strict, preserveWhitespace, none⟩ (respondParse models out)
  | .render source target out strict preserveWhitespace =>
    content.andThen registry ⟨strict, preserveWhitespace, none⟩ (respondRender source target out)
  | .tree source => content.andThen registry {} (respondTree source)
  | .check source checks =>
    match checks.find? fun name => (registry.get? name).isNone with
    | some unknown =>
      .refuse [] [.message <| Markup.styled "red" <|
        "Unknown check '".toList ++ Markup.escape unknown ++ "'. Run 'protomd list-checks'.".toList]
    | none =>
      content.andThen registry ⟨true, false, if checks = [] then none else some checks⟩
        (respondCheck source)
  | .listChecks => respondListChecks registry

/-- The response of a command, given how the content of a file is read. -/
def respond (models : ModelLibrary) (registry : Registry) (read : Path → Content)
    (command : Command) : Response :=
  match command.source? with
  | none => command.respondTo models registry (.error .notFound)
  | some source =>
    match read source with
    | .error .notFound | .error .notDirectory => .missing source
    | .error .nameTooLong => .stop (.file .nameTooLong) []
    | content => command.respondTo models registry content

end Command

namespace Invocation

/-- The least severity of the events that an invocation shows. -/
def severity (invocation : Invocation) : Severity :=
  if invocation.verbose then .debug else .warning

/-- A step of an invocation; of the events, those that it shows are kept. -/
def shown (invocation : Invocation) : Step → Step
  | .log events => .log (Logging.shown invocation.severity events)
  | step => step

/-- The response of an invocation. -/
def respond (models : ModelLibrary) (registry : Registry) (read : Path → Content)
    (invocation : Invocation) : Response :=
  let response := invocation.command.respond models registry read
  { response with steps := response.steps.map invocation.shown }

end Invocation

/-- The response to what arguments ask for. -/
def Request.respond (models : ModelLibrary) (registry : Registry) (read : Path → Content) :
    Request → Response
  | .run invocation => invocation.respond models registry read
  | .inform => ⟨[], 0, none⟩
  | .install => ⟨[.install], 0, none⟩
  | .refuse cause => .misuse cause

end Mockup
