import Mockup.Command.Response
import Mockup.Proofs.Console.Markup
import Mockup.Proofs.Document.Nesting
import Mockup.Proofs.Document.Conformance
import Mockup.Proofs.Document.RoundTrip
import Mockup.Proofs.Json.Layout

/-!
# Which steps commands take

A command either asks for no file to be written, or it asks for one and nothing but that can fail
if the console takes everything: all other steps show or log something, and what is shown is
escaped. Whatever can go wrong with the source, the checks or the rendering does so before there is
a response with such a step.
-/

namespace Mockup

namespace Step

/-- Whether a step writes files. -/
def Writes : Step → Prop
  | .write .. | .install => True
  | _ => False

/-- Whether a step writes no file, and cannot fail where everything can be shown. -/
def IsSafe : Step → Prop
  | .log _ | .lines _ => True
  | .message text => (Markup.read text).fault? = none
  | .write .. | .install => False

end Step

namespace Response

/-- Whether a response asks for no file to be written. -/
def Spares (response : Response) : Prop :=
  ∀ step ∈ response.steps, ¬ step.Writes

/-- Whether a response asks for one file to be written, and nothing else in it can fail. -/
structure Delivers (response : Response) (out : Path) (written : Text) : Prop where
  exitCode_eq : response.exitCode = 0
  steps_eq : ∃ before after,
    response.steps = before ++ .write out (Text.toBytes written) :: after ∧
      (∀ step ∈ before, step.IsSafe) ∧ ∀ step ∈ after, step.IsSafe

theorem spares_display (shown : List Text) (events : List Event) :
    (display shown events).Spares := by
  simp [Spares, display, Step.Writes]

theorem spares_stop (failure : Failure) (events : List Event) : (stop failure events).Spares := by
  simp [Spares, stop, Step.Writes]

theorem spares_refuse {steps : List Step} (spares : ∀ step ∈ steps, ¬ step.Writes)
    (events : List Event) : (refuse events steps).Spares := by
  simpa [Spares, refuse, Step.Writes] using spares

theorem spares_missing (source : Path) : (missing source).Spares :=
  spares_refuse (by simp [Step.Writes]) []

theorem spares_misuse (cause : UsageError) : (misuse cause).Spares := by
  cases cause <;> simp [misuse, Spares, stop, Step.Writes]

end Response

namespace Command

/-- The file that a command is to write. -/
def out? : Command → Option Path
  | .parse _ out .. => out
  | .render _ _ out .. => out
  | .tree _ | .check .. | .listChecks => none

/-- What a command makes of the text of its source for the file that it is to write: the JSON form
of the document, one element a line, and a line feed, or the rendered form. -/
inductive Makes (registry : Registry) (text : Text) : Command → Path → Text → Prop
  | parse {strict preserveWhitespace : Bool} {json : Text} (source out : Path)
      (laidOut : Json.Indented 0
        (Reading.read ⟨strict, preserveWhitespace, none⟩ registry text).document.toJson json) :
    Makes registry text (.parse source (some out) strict preserveWhitespace) out (json ++ ['\n'])
  | render {source : Path} {target : Target} {strict preserveWhitespace : Bool}
      {compiled : Compiled} (out : Path)
      (compiles :
        (Reading.read ⟨strict, preserveWhitespace, none⟩ registry text).document.compileTo target
          (some source.text) = .ok compiled) :
    Makes registry text (.render source target (some out) strict preserveWhitespace) out
      compiled.output

/-- What a command writes to a file, given how files are read: what it makes of the text of its
source. -/
def Writes (registry : Registry) (read : Path → Content) (command : Command) (out : Path)
    (written : Text) : Prop :=
  ∃ source bytes text, command.source? = some source ∧ read source = .ok bytes ∧
    Text.ofBytes? bytes = some text ∧ command.Makes registry text out written

variable {more : List Step}

theorem spares_deliver (written shown : Text) (events : List Event)
    (spares : ∀ step ∈ more, ¬ step.Writes) :
    (deliver none written shown events more).Spares := by
  simpa [Response.Spares, deliver, Step.Writes] using spares

/-- The message that names the written file can be shown whatever its name is. -/
theorem delivers_deliver (out : Path) (written shown : Text) (events : List Event)
    (safe : ∀ step ∈ more, step.IsSafe) :
    (deliver (some out) written shown events more).Delivers out written where
  exitCode_eq := rfl
  steps_eq := by
    have notice : (Markup.read (Markup.styled "green"
        ("Wrote ".toList ++ Markup.escape out.text))).fault? = none :=
      Markup.fault?_styled_escape Markup.namesStyle_green _ (by decide) (by decide) out.text
    exact ⟨[.log events], _, rfl, by simp [Step.IsSafe], List.forall_mem_cons.mpr ⟨notice, safe⟩⟩

theorem isSafe_diagnostic (error : Text) :
    (Step.message (Markup.styled "yellow" (Markup.escape error))).IsSafe :=
  Markup.fault?_styled_escape Markup.namesStyle_yellow [] List.not_mem_nil rfl error

/-- Either nothing is read, or the response is one to the text that is. -/
theorem andThen_cases (content : Content) (registry : Registry) (options : Options)
    (respond : Reading → Response) :
    (content.andThen registry options respond).Spares ∧
        (content.andThen registry options respond).exitCode ≠ 0 ∨
      ∃ bytes text, content = .ok bytes ∧ Text.ofBytes? bytes = some text ∧
        content.andThen registry options respond =
          respond (Reading.read options registry text) := by
  unfold Content.andThen
  split
  case h_1 cause => exact .inl ⟨Response.spares_stop _ _, Nat.one_ne_zero⟩
  case h_2 bytes =>
    split
    case h_1 => exact .inl ⟨Response.spares_stop _ _, Nat.one_ne_zero⟩
    case h_2 text found => exact .inr ⟨bytes, text, rfl, found, rfl⟩

variable {models : ModelLibrary}

theorem respondParse_none (reading : Reading) : (respondParse models none reading).Spares := by
  rw [respondParse]
  split
  · exact Response.spares_refuse (by simp) _
  · exact spares_deliver _ _ _ (by simp [Step.Writes])

/-- A document that is read can be written by a lawful library. -/
theorem respondParse_some (lawful : models.Lawful Reading.nestingBound) (out : Path)
    (options : Options) (registry : Registry) (text : Text) :
    let reading := Reading.read options registry text
    (respondParse models (some out) reading).Delivers out
      (reading.document.toJson.pretty ++ ['\n']) := by
  intro reading
  have dumped : models.write reading.document = some reading.document.toJson :=
    lawful.dump_of_fits reading.document.fits_toValue
      (Reading.nesting_document_le options registry text)
  rw [respondParse, dumped]
  exact delivers_deliver out _ _ _ (by simpa using fun error _ => isSafe_diagnostic error)

/-- A document that cannot be rendered is refused. -/
theorem respondRender_cases (source : Path) (target : Target) (out? : Option Path)
    (reading : Reading) :
    (respondRender source target out? reading).Spares ∧
        ((respondRender source target out? reading).exitCode = 0 → out? = none) ∨
      ∃ out compiled, out? = some out ∧
        reading.document.compileTo target (some source.text) = .ok compiled := by
  unfold respondRender
  split
  case h_1 => exact .inl ⟨Response.spares_refuse (by simp [Step.Writes]) _, nofun⟩
  case h_2 => exact .inl ⟨Response.spares_stop _ _, nofun⟩
  case h_3 compiled compiles =>
    cases out? with
    | none => exact .inl ⟨spares_deliver _ _ _ (by simp [Step.Writes]), fun _ => rfl⟩
    | some out => exact .inr ⟨out, compiled, rfl, compiles⟩

theorem respondRender_some {source : Path} {target : Target} {reading : Reading}
    {compiled : Compiled} (out : Path)
    (compiles : reading.document.compileTo target (some source.text) = .ok compiled) :
    (respondRender source target (some out) reading).Delivers out compiled.output := by
  rw [respondRender, compiles]
  exact delivers_deliver out _ _ _ (by simp [Step.IsSafe])

theorem spares_respondCheck (source : Path) (reading : Reading) :
    (respondCheck source reading).Spares := by
  unfold respondCheck
  split
  · exact Response.spares_display _ _
  · exact Response.spares_refuse (by simp [Step.Writes]) _

theorem spares_respondListChecks (registry : Registry) : (respondListChecks registry).Spares := by
  simp only [respondListChecks]
  split
  · exact Response.spares_stop _ _
  · exact Response.spares_display _ _

/-- A command writes no file, unless it is told to and makes something of the text of its source. -/
theorem respondTo_cases (models : ModelLibrary) (registry : Registry) (content : Content)
    (command : Command) :
    (command.respondTo models registry content).Spares ∧
        ((command.respondTo models registry content).exitCode = 0 → command.out? = none) ∨
      ∃ bytes text out written, content = .ok bytes ∧ Text.ofBytes? bytes = some text ∧
        command.Makes registry text out written := by
  cases command with
  | parse source out? strict preserveWhitespace =>
    obtain ⟨spares, fails⟩ | ⟨bytes, text, read, isText, same⟩ :=
      andThen_cases content registry ⟨strict, preserveWhitespace, none⟩ (respondParse models out?)
    · exact .inl ⟨spares, fun succeeds => absurd succeeds fails⟩
    cases out? with
    | none =>
      rw [respondTo, same]
      exact .inl ⟨respondParse_none _, fun _ => rfl⟩
    | some out =>
      exact .inr ⟨bytes, text, out, _, read, isText, .parse source out (Json.indented_pretty _)⟩
  | render source target out? strict preserveWhitespace =>
    obtain ⟨spares, fails⟩ | ⟨bytes, text, read, isText, same⟩ :=
      andThen_cases content registry ⟨strict, preserveWhitespace, none⟩
        (respondRender source target out?)
    · exact .inl ⟨spares, fun succeeds => absurd succeeds fails⟩
    rw [respondTo, same]
    obtain spares | ⟨out, compiled, rfl, compiles⟩ :=
      respondRender_cases source target out?
        (Reading.read ⟨strict, preserveWhitespace, none⟩ registry text)
    · exact .inl spares
    · exact .inr ⟨bytes, text, out, compiled.output, read, isText, .render out compiles⟩
  | tree source =>
    refine .inl ⟨?_, fun _ => rfl⟩
    obtain ⟨spares, -⟩ | ⟨bytes, text, -, -, same⟩ :=
      andThen_cases content registry {} (respondTree source)
    · exact spares
    · rw [respondTo, same]
      exact Response.spares_display _ _
  | check source checks =>
    refine .inl ⟨?_, fun _ => rfl⟩
    rw [respondTo]
    split
    case h_1 => exact Response.spares_refuse (by simp [Step.Writes]) _
    case h_2 =>
      obtain ⟨spares, -⟩ | ⟨bytes, text, -, -, same⟩ :=
        andThen_cases content registry ⟨true, false, if checks = [] then none else some checks⟩
          (respondCheck source)
      · exact spares
      · rw [same]
        exact spares_respondCheck _ _
  | listChecks => exact .inl ⟨spares_respondListChecks registry, fun _ => rfl⟩

/-- The same, given how files are read. -/
theorem respond_cases (models : ModelLibrary) (registry : Registry) (read : Path → Content)
    (command : Command) :
    (command.respond models registry read).Spares ∧
        ((command.respond models registry read).exitCode = 0 → command.out? = none) ∨
      ∃ out written, command.Writes registry read out written := by
  unfold respond
  split
  case h_1 =>
    obtain spares | ⟨_, _, _, _, ⟨⟩, _⟩ :=
      respondTo_cases models registry (.error .notFound) command
    exact .inl spares
  case h_2 source found =>
    split
    case h_1 | h_2 => exact .inl ⟨Response.spares_missing source, nofun⟩
    case h_3 => exact .inl ⟨Response.spares_stop _ _, nofun⟩
    case h_4 =>
      obtain spares | ⟨bytes, text, out, written, content, isText, makes⟩ :=
        respondTo_cases models registry (read source) command
      · exact .inl spares
      · exact .inr ⟨out, written, source, bytes, text, found, content, isText, makes⟩

/-- A command that writes a file asks for that and for nothing else that can fail. -/
theorem Writes.delivers (lawful : models.Lawful Reading.nestingBound) {registry : Registry}
    {read : Path → Content} {command : Command} {out : Path} {written : Text}
    (writes : command.Writes registry read out written) :
    (command.respond models registry read).Delivers out written := by
  obtain ⟨source, bytes, text, isSource, content, isText, makes⟩ := writes
  have same : command.respond models registry read =
      command.respondTo models registry (.ok bytes) := by
    simp only [respond, isSource, content]
  rw [same]
  cases makes with
  | parse source out laidOut =>
    simp only [respondTo, Content.andThen, isText]
    rw [(Json.indented_iff _ 0 _).1 laidOut]
    exact respondParse_some lawful out _ registry text
  | render out compiles =>
    simp only [respondTo, Content.andThen, isText]
    exact respondRender_some out compiles

end Command

/-! ## Invocations -/

namespace Invocation

theorem writes_shown (invocation : Invocation) (step : Step) :
    (invocation.shown step).Writes ↔ step.Writes := by
  cases step <;> rfl

theorem isSafe_shown (invocation : Invocation) (step : Step) :
    (invocation.shown step).IsSafe ↔ step.IsSafe := by
  cases step <;> rfl

variable {models : ModelLibrary} {registry : Registry} {read : Path → Content}

/-- Leaving out events changes nothing about the steps that write. -/
theorem spares_respond (invocation : Invocation)
    (spares : (invocation.command.respond models registry read).Spares) :
    (invocation.respond models registry read).Spares := by
  simpa [Response.Spares, respond, writes_shown] using spares

theorem delivers_respond (invocation : Invocation) {out : Path} {written : Text}
    (delivers : (invocation.command.respond models registry read).Delivers out written) :
    (invocation.respond models registry read).Delivers out written where
  exitCode_eq := delivers.exitCode_eq
  steps_eq := by
    obtain ⟨before, after, same, safeBefore, safeAfter⟩ := delivers.steps_eq
    refine ⟨before.map invocation.shown, after.map invocation.shown, ?_, ?_, ?_⟩
    · rw [respond, same, List.map_append, List.map_cons]
      rfl
    · simpa [isSafe_shown] using safeBefore
    · simpa [isSafe_shown] using safeAfter

end Invocation

/-- A request is refused, or shows something, or runs a command; only setting up completion writes
files beside that. -/
theorem Request.respond_cases (models : ModelLibrary) (registry : Registry)
    (read : Path → Content) {request : Request} (other : request ≠ .install) :
    (request.respond models registry read).Spares ∧
        ((request.respond models registry read).exitCode = 0 →
          ∀ invocation, request = .run invocation → invocation.command.out? = none) ∨
      ∃ invocation out written, request = .run invocation ∧
        invocation.command.Writes registry read out written := by
  cases request with
  | run invocation =>
    obtain ⟨spares, noOut⟩ | ⟨out, written, writes⟩ :=
      invocation.command.respond_cases models registry read
    · refine .inl ⟨invocation.spares_respond spares, ?_⟩
      rintro succeeds _ ⟨⟩
      exact noOut succeeds
    · exact .inr ⟨invocation, out, written, rfl, writes⟩
  | inform => exact .inl ⟨by simp [Response.Spares, respond], nofun⟩
  | install => exact absurd rfl other
  | refuse cause => exact .inl ⟨Response.spares_misuse cause, nofun⟩

end Mockup
