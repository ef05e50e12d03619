import Mockup.Check
import Mockup.Diagnostic
import Mockup.Directives
import Mockup.Event
import Mockup.Reading.Frame

/-!
# Reading line by line

The state of a reading is the stack of open frames, the innermost first, a table that may be open
inside of them, and the finished blocks of the document. Each line takes the state one step
further; what is to be reported on the way is returned beside it, in order.
-/

namespace Mockup

/-- How a document is read. -/
structure Options where
  /-- Whether lines that fail a check are reported and left out. -/
  strict : Bool := false
  /-- Whether lines keep the blanks around them. -/
  preserveWhitespace : Bool := false
  /-- The names of the checks to run; all registered checks by default. -/
  checks : Option (List Text) := none
  deriving DecidableEq, Repr

/-- Something reported during reading. -/
inductive Note where
  | event (event : Event)
  | diagnostic (diagnostic : Diagnostic)
  deriving DecidableEq, Repr

namespace Reading

/-- The state of a reading. -/
structure State where
  /-- The open blocks, the innermost first. -/
  frames : List Frame
  /-- The open table, which belongs to the innermost open block. -/
  table : Option OpenTable
  /-- The finished blocks of the document, the latest first. -/
  finished : List Block

/-- Nothing has been read. -/
def State.empty : State := ⟨[], none, []⟩

/-- A diagnostic, which is only reported in strict reading. -/
def diagnose (options : Options) (diagnostic : Diagnostic) : List Note :=
  if options.strict then [.diagnostic diagnostic] else []

namespace State

/-- Whether the innermost open block is a workflow. -/
def inWorkflow (state : State) : Bool :=
  state.frames.head?.any Frame.isWorkflow

/-- Puts a block that started on line `number` where it belongs: into the innermost open block, or
into the document if none is open. A workflow drops what is not a screen. -/
def put (options : Options) (number : Nat) (block : Block) (state : State) : State × List Note :=
  match state.frames with
  | [] => ({ state with finished := block :: state.finished }, [])
  | frame :: outer =>
    match frame.add? block with
    | some frame => ({ state with frames := frame :: outer }, [])
    | none =>
      (state, .event (.dropped block.kind number) :: diagnose options (.notAScreen number))

/-- Closes the innermost open block. -/
def closeFrame (options : Options) (state : State) : State × List Note :=
  match state.frames with
  | [] => (state, [])
  | frame :: outer => put options frame.line frame.close { state with frames := outer }

/-- Closes the open table, if there is one. -/
def closeTable (options : Options) (state : State) : State × List Note :=
  match state.table with
  | none => (state, [])
  | some table => put options table.line table.close { state with table := none }

/-- Opens a block of which nothing but the opening line has been read. -/
def push (frame : Frame) (state : State) : State :=
  { state with frames := frame :: state.frames }

end State

/-- Reads a line as an item. -/
def readItem (options : Options) (registry : Registry) (number : Nat) (line : Text)
    (state : State) : State × List Note :=
  let (rule, item) := Item.ofLine line
  let event := if rule = .text then Event.fellBack line else .classified line rule
  let failures :=
    if rule = .text ∧ options.strict then registry.failures options.checks line else []
  if failures ≠ [] then
    (state, [.event event, .diagnostic (.unreadable number line failures)])
  else
    let (state, notes) := state.put options number (.item item)
    (state, .event event :: notes)

/-- The initial screen that the directives of a workflow set. Directives that cannot be read are
ignored and reported. -/
def readInitial (options : Options) (number : Nat) (directives : Text) :
    Option Text × List Note :=
  match Directives.read directives with
  | .ok directives => (directives.get? "initial".toList, [])
  | .error fault =>
    (none, .event (.badDirectives number fault) ::
      diagnose options (.badDirectives number directives))

/-- The frame that an opener on line `number` opens, with what is reported when it does. A table
does not nest and has no frame. -/
def openFrame? (options : Options) (number : Nat) : Opener → Option (Frame × List Note)
  | .table => none
  | .card title =>
    some (.box number (.card (if title = [] then none else some (Inline.read title))) [], [])
  | .grid config => some (.box number (.grid config) [], [])
  | .div className =>
    some (.box number (.div (if className = [] then none else some className)) [], [])
  | .screen id => some (.screen number id [], [])
  | .workflow directives =>
    let (initial, notes) := readInitial options number directives
    some (.workflow number initial [], notes)

/-- Opens what a line opens, unless too many blocks are open already: then the line is reported,
and read as an item except in strict reading. -/
def readOpener (options : Options) (registry : Registry) (number : Nat) (line : Text)
    (opener : Opener) (state : State) : State × List Note :=
  match openFrame? options number opener with
  | none => ({ state with table := some (.start number line) }, [])
  | some (frame, notes) =>
    if state.frames.length < nestingLimit then (state.push frame, notes)
    else if options.strict then
      (state, [.event (.tooDeep number), .diagnostic (.tooDeep number)])
    else
      let (state, notes) := readItem options registry number line state
      (state, .event (.tooDeep number) :: notes)

/-- Reads a line that does not belong to an open table. -/
def readLine (options : Options) (registry : Registry) (number : Nat) (line : Text)
    (state : State) : State × List Note :=
  if state.frames.head?.any fun frame => frame.closer = line then state.closeFrame options
  else if Text.allBlank line then (state, [])
  else
    match (if state.inWorkflow then Opener.ofWorkflowLine? line else Opener.ofLine? line) with
    | some opener => readOpener options registry number line opener state
    | none => readItem options registry number line state

/-- Takes the state one line further. -/
def step (options : Options) (registry : Registry) (number : Nat) (line : Text) (state : State) :
    State × List Note :=
  match state.table.bind fun table => table.add? line with
  | some table => ({ state with table := some table }, [])
  | none =>
    let (state, closing) := state.closeTable options
    let (state, notes) := readLine options registry number line state
    (state, closing ++ notes)

/-- Closes up to `count` open blocks at the end of the document, the innermost first. -/
def closeFrames (options : Options) : (count : Nat) → State → State × List Note
  | 0, state => (state, [])
  | count + 1, state =>
    match state.frames with
    | [] => (state, [])
    | frame :: _ =>
      let (state, notes) := state.closeFrame options
      let (state, more) := closeFrames options count state
      (state, .event (.unterminated frame.kind frame.line) :: notes ++ more)

/-- Closes everything at the end of the document. -/
def finish (options : Options) (state : State) : State × List Note :=
  let (state, closing) := state.closeTable options
  let (state, notes) := closeFrames options state.frames.length state
  (state, closing ++ notes)

/-- Reads lines that are numbered from `number` on, to the end of the document. -/
def run (options : Options) (registry : Registry) : Nat → List Text → State → State × List Note
  | _, [], state => finish options state
  | number, line :: lines, state =>
    let (state, notes) := step options registry number line state
    let (state, more) := run options registry (number + 1) lines state
    (state, notes ++ more)

end Reading

end Mockup
