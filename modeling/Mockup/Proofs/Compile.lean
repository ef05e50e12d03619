import Mockup.Proofs.Html.Preview
import Mockup.Proofs.Jsx.States
import Mockup.Proofs.Strictness
import Mockup.Proofs.WellFormed.Documents

/-!
# When a text compiles

Reading a text never fails. Compiling what was read fails for one of two reasons: lines were
refused, which only strict reading does, or a preview is asked for and the style of a grid cannot
be computed. The first reason comes before the second one, and there is no third.
-/

namespace Mockup

open Preview (Answers)

/-- The configurations of the grids that rendering has to compute a style for. -/
def Target.styledConfigs (blocks : List Block) : Target → List Text
  | .html => Block.gridConfigsOf blocks
  | .component => []

theorem Target.answers_render (blocks : List Block) (target : Target) :
    Answers (target.styledConfigs blocks) (target.render blocks) := by
  cases target with
  | html => exact Answers.ofBlocks blocks
  | component => exact Answers.ok _

namespace Reading

variable {reading : Reading} {targetName : Text} {target : Target} {source : Option Text}

/-- The messages about refused lines. -/
def messages (reading : Reading) : List Text :=
  reading.diagnostics.map Diagnostic.message

theorem messages_eq_nil_iff : reading.messages = [] ↔ Quiet reading.notes := by
  rw [messages, List.map_eq_nil_iff, diagnostics_eq_nil_iff]

/-- Refused lines are reported, and nothing else is looked at. -/
theorem compile_of_messages {first : Text} {more : List Text}
    (refused : reading.messages = first :: more) :
    reading.document.compile targetName source = .error (.failed (.refused first more source)) := by
  have errors : reading.document.errors = some (first :: more) := by
    rw [document, ← refused, messages]
    cases found : reading.diagnostics with
    | nil => simp [messages, found] at refused
    | cons diagnostic diagnostics => rfl
  rw [Document.compile, errors]

/-- Without refused lines the answer is that of the renderer. -/
theorem compile_of_messages_eq_nil (accepted : reading.messages = [])
    (named : Target.ofName? targetName = some target) :
    reading.document.compile targetName source =
      match target.render reading.blocks with
      | .error cause => .error (.failed (.noPreview cause))
      | .ok output => .ok ⟨target, source, output, reading.blocks.length⟩ := by
  have errors : reading.document.errors = none :=
    (errors_eq_none_iff reading).2 (messages_eq_nil_iff.1 accepted)
  have blocks : reading.document.blocks = reading.blocks := rfl
  simp only [Document.compile, Document.compileTo, errors, named, blocks]
  cases target.render reading.blocks with
  | error cause => rfl
  | ok output => rfl

theorem classify_of_mem_lines {options : Options} {text : Text} :
    ∀ line ∈ (lines text).map (prepare options), Item.classify line = .ok (Item.ofLine line) := by
  intro line member
  exact Item.classify_ofLine (Text.oneLine_iff.2 (oneLine_of_mem_lines line member))

theorem strict_of_messages {options : Options} {registry : Registry} {text : Text}
    (refused : (read options registry text).messages ≠ []) : options.strict = true := by
  cases strict : options.strict with
  | true => rfl
  | false => exact absurd (messages_eq_nil_iff.2 (quiet_read_notes strict text)) refused

/-- The three ways in which compiling ends, and when it ends in which. -/
theorem compile_cases (named : Target.ofName? targetName = some target) :
    (∃ first more, reading.messages = first :: more ∧
      reading.document.compile targetName source =
        .error (.failed (.refused first more source))) ∨
    (∃ cause, reading.messages = [] ∧
      (∃ config ∈ target.styledConfigs reading.blocks, Grid.style config = .error cause) ∧
      reading.document.compile targetName source = .error (.failed (.noPreview (.badGap cause)))) ∨
    (∃ output, reading.messages = [] ∧
      (∀ config ∈ target.styledConfigs reading.blocks, Grid.HasStyle config) ∧
      reading.document.compile targetName source =
        .ok ⟨target, source, output, reading.blocks.length⟩) := by
  cases found : reading.messages with
  | cons first more => exact .inl ⟨first, more, rfl, compile_of_messages found⟩
  | nil =>
      have answered := target.answers_render reading.blocks
      have compiled : reading.document.compile targetName source = _ :=
        compile_of_messages_eq_nil found named
      cases rendered : target.render reading.blocks with
      | error error =>
          rw [rendered] at answered compiled
          obtain ⟨config, member, cause, failed, rfl⟩ := answered
          exact .inr (.inl ⟨cause, rfl, ⟨config, member, failed⟩, compiled⟩)
      | ok output =>
          rw [rendered] at answered compiled
          exact .inr (.inr ⟨output, rfl, answered, compiled⟩)

theorem not_hasStyle {config : Text} {cause : NumberError}
    (failed : Grid.style config = .error cause) : ¬Grid.HasStyle config := by
  rintro ⟨style, computed⟩
  rw [failed] at computed
  cases computed

/-- Lines are refused exactly when there are messages, and these are what is reported. -/
theorem compile_eq_refused_iff (named : Target.ofName? targetName = some target)
    {first : Text} {more : List Text} :
    reading.document.compile targetName source = .error (.failed (.refused first more source)) ↔
      reading.messages = first :: more := by
  constructor
  · intro ends
    rcases compile_cases named with
      ⟨head, others, refused, compiled⟩ | ⟨cause, -, -, compiled⟩ | ⟨output, -, -, compiled⟩
    · rw [compiled] at ends
      cases ends
      exact refused
    · rw [compiled] at ends
      cases ends
    · rw [compiled] at ends
      cases ends
  · exact compile_of_messages

theorem compile_eq_badGap_iff (named : Target.ofName? targetName = some target) :
    (∃ cause, reading.document.compile targetName source =
        .error (.failed (.noPreview (.badGap cause)))) ↔
      reading.messages = [] ∧
        ∃ config ∈ target.styledConfigs reading.blocks,
          ∃ cause, Grid.style config = .error cause := by
  constructor
  · rintro ⟨cause, ends⟩
    rcases compile_cases named with
      ⟨head, others, -, compiled⟩ | ⟨other, accepted, ⟨config, member, failed⟩, -⟩ |
        ⟨output, -, -, compiled⟩
    · rw [compiled] at ends
      cases ends
    · exact ⟨accepted, config, member, other, failed⟩
    · rw [compiled] at ends
      cases ends
  · rintro ⟨accepted, config, member, cause, failed⟩
    rcases compile_cases named with
      ⟨head, others, refused, -⟩ | ⟨other, -, -, compiled⟩ | ⟨output, -, styled, -⟩
    · rw [accepted] at refused
      cases refused
    · exact ⟨other, compiled⟩
    · exact absurd (styled config member) (not_hasStyle failed)

theorem compile_eq_ok_iff (named : Target.ofName? targetName = some target) :
    (∃ output, reading.document.compile targetName source =
        .ok ⟨target, source, output, reading.blocks.length⟩) ↔
      reading.messages = [] ∧
        ∀ config ∈ target.styledConfigs reading.blocks, Grid.HasStyle config := by
  constructor
  · rintro ⟨output, ends⟩
    rcases compile_cases named with
      ⟨head, others, -, compiled⟩ | ⟨cause, -, -, compiled⟩ | ⟨other, accepted, styled, -⟩
    · rw [compiled] at ends
      cases ends
    · rw [compiled] at ends
      cases ends
    · exact ⟨accepted, styled⟩
  · rintro ⟨accepted, styled⟩
    rcases compile_cases named with
      ⟨head, others, refused, -⟩ | ⟨cause, -, ⟨config, member, failed⟩, -⟩ |
        ⟨output, -, -, compiled⟩
    · rw [accepted] at refused
      cases refused
    · exact absurd (styled config member) (not_hasStyle failed)
    · exact ⟨output, compiled⟩

/-- What can happen when a text is read and compiled to a target that exists. Reading classifies
each line, and refuses lines only if it is strict. Compiling then reports exactly the refused
lines; without them it gives a document, except that a preview fails when the style of some grid
cannot be computed. It fails in no other way, and a component names no state that it does not
declare. -/
theorem compile_read (options : Options) (registry : Registry) (text : Text)
    (named : Target.ofName? targetName = some target) :
    let reading := read options registry text
    let outcome := reading.document.compile targetName source
    let configs := Block.gridConfigsOf reading.blocks
    (∀ line ∈ (lines text).map (prepare options), Item.classify line = .ok (Item.ofLine line)) ∧
      (reading.diagnostics ≠ [] → options.strict = true) ∧
      (∀ first more, outcome = .error (.failed (.refused first more source)) ↔
        reading.diagnostics.map Diagnostic.message = first :: more) ∧
      ((∃ output, outcome = .ok ⟨target, source, output, reading.blocks.length⟩) ↔
        reading.diagnostics = [] ∧
          (target = .component ∨ ∀ config ∈ configs, ∃ style, Grid.style config = .ok style)) ∧
      ((∃ cause, outcome = .error (.failed (.noPreview (.badGap cause)))) ↔
        reading.diagnostics = [] ∧ target = .html ∧
          ∃ config ∈ configs, ∃ cause, Grid.style config = .error cause) ∧
      (∀ error, outcome = .error error →
        (∃ first more, error = .failed (.refused first more source)) ∨
          ∃ cause, error = .failed (.noPreview (.badGap cause))) ∧
      Jsx.Node.AllDeclared (Component.states reading.blocks) (Component.body reading.blocks) := by
  intro reading outcome configs
  have unrefused : reading.messages = [] ↔ reading.diagnostics = [] := List.map_eq_nil_iff
  refine ⟨classify_of_mem_lines, ?_, ?_, ?_, ?_, ?_, Component.allDeclared_body _⟩
  · intro refused
    exact strict_of_messages (mt unrefused.1 refused)
  · intro first more
    exact compile_eq_refused_iff named
  · rw [compile_eq_ok_iff named, unrefused]
    cases target with
    | html => simp [Target.styledConfigs, Grid.HasStyle, configs]
    | component => simp [Target.styledConfigs]
  · rw [compile_eq_badGap_iff named, unrefused]
    cases target with
    | html => simp [Target.styledConfigs, configs]
    | component => simp [Target.styledConfigs]
  · intro error fails
    rcases compile_cases named with
      ⟨first, more, -, compiled⟩ | ⟨cause, -, -, compiled⟩ | ⟨output, -, -, compiled⟩
    · refine .inl ⟨first, more, ?_⟩
      exact Except.error.inj (fails.symm.trans compiled)
    · refine .inr ⟨cause, ?_⟩
      exact Except.error.inj (fails.symm.trans compiled)
    · cases fails.symm.trans compiled

/-- A superscript is a digit, but no number is written with it, so it makes no gap. -/
theorem compile_read_superscript_gap :
    Target.ofName? "html".toList = some .html ∧
      ∃ cause, (read {} Registry.builtin ("[grid gap=".toList ++ ['²'])).document.compile
        "html".toList none = .error (.failed (.noPreview (.badGap cause))) := by
  have named : Target.ofName? "html".toList = some .html := rfl
  have fails : Grid.style ['g', 'a', 'p', '=', '²'] = .error (.notDecimal ['²']) := rfl
  have blocks : (read {} Registry.builtin ("[grid gap=".toList ++ ['²'])).blocks =
      [.box (.grid ['g', 'a', 'p', '=', '²']) []] := rfl
  have quiet : (read {} Registry.builtin ("[grid gap=".toList ++ ['²'])).diagnostics = [] := rfl
  refine ⟨named, ?_⟩
  apply (compile_read {} Registry.builtin _ named).2.2.2.2.1.2
  refine ⟨quiet, rfl, ['g', 'a', 'p', '=', '²'], ?_, _, fails⟩
  rw [blocks]
  exact List.mem_singleton_self _

end Reading

end Mockup
