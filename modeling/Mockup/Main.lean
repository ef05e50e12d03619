import Mockup.Command.Response

/-!
# The command line

Reads the source that a command names, and shows and stores what the command responds.
-/

namespace Mockup

/-- A path as a string. -/
def Path.string (path : Path) : String :=
  String.ofList path.text

/-- The content of a file. -/
def readContent (path : Path) : IO Content := do
  try
    return .ok (← IO.FS.readBinFile path.string)
  catch cause =>
    match cause with
    | .noFileOrDirectory .. => return .error .notFound
    | _ => return .error .isDirectory

/-- The text of what stops a command. -/
def Failure.message : Failure → String
  | .file .notFound => "no such file or directory"
  | .file .isDirectory => "the path is a directory or cannot be read"
  | .file .notDirectory => "a file stands where a directory is needed"
  | .file .alreadyExists => "a file stands where a directory is to be made"
  | .file .nameTooLong => "a path or one of its names is too long"
  | .notText => "the file is not UTF-8"
  | .preview (.badGap cause) => String.ofList cause.message
  | .preview .strayText => "text stands where a block is expected"
  | .markup (.notOpen name) => "a tag closes a style that is not open: " ++ String.ofList name
  | .markup .nothingOpen => "a tag closes the latest style, and none is open"
  | .markup (.badArguments text) => "arguments that cannot be read: " ++ String.ofList text
  | .markup (.notNumber cause) => String.ofList cause.message
  | .badPath => "a path holds the character with the code zero"

/-- Shows lines. -/
def printLines (lines : List Text) : IO Unit := do
  for line in lines do
    IO.println (String.ofList line)

/-- Takes a step, or says why it cannot be taken. -/
def Step.perform : Step → IO (Option Failure)
  | .log events => do
    for event in events do
      IO.eprintln (String.ofList event.message)
    return none
  | .write path bytes => do
    IO.FS.createDirAll path.front.string
    IO.FS.writeBinFile path.string bytes
    return none
  | .message text => do
    if let some cause := (Markup.read text).fault? then
      return some (.markup cause)
    printLines (Console.message text)
    return none
  | .lines shown => do
    printLines shown
    return none
  | .install => do
    IO.eprintln "completion is not set up"
    return none

/-- Carries out a response, up to the first step that cannot be taken. -/
def Response.perform (response : Response) : IO UInt32 := do
  for step in response.steps do
    if let some failure ← step.perform then
      IO.eprintln failure.message
      return 1
  if let some failure := response.failure then
    IO.eprintln failure.message
  return response.exitCode.toUInt32

def Request.isRun : Request → Bool
  | .run _ => true
  | .inform | .install | .refuse _ => false

/-- The source that is to be read for what arguments ask for. -/
def Request.source? : Request → Option Path
  | .run invocation => invocation.command.source?
  | .inform | .install | .refuse _ => none

/-- Runs the program with the built-in checks. -/
def runArguments (arguments : List String) : IO UInt32 := do
  let request := Arguments.request (arguments.map String.toList)
  unless request.isRun do
    IO.eprintln "usage: [-v] parse | render | tree | check | list-checks [OPTIONS] [SOURCE]"
  let content ← match request.source? with
    | some source => readContent source
    | none => pure (.error .notFound)
  (request.respond .standard .builtin fun _ => content).perform

end Mockup

/-- The entry point of the program. -/
def main (arguments : List String) : IO UInt32 :=
  Mockup.runArguments arguments
