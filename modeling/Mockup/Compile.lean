import Mockup.Document
import Mockup.Html.Preview
import Mockup.Jsx.Component

/-!
# Compiling documents

A document without refused lines is rendered to one of two targets. Refused lines are reported
before anything else can go wrong.
-/

namespace Mockup

/-- What a document is rendered to. -/
inductive Target where
  /-- A static HTML preview. -/
  | html
  /-- A React component. -/
  | component
  deriving DecidableEq, Repr

namespace Target

/-- The name that selects a target. -/
def name : Target → Text
  | .html => "html".toList
  | .component => "shadcn".toList

/-- The target that a name selects. -/
def ofName? (word : Text) : Option Target :=
  [Target.html, .component].find? fun target => target.name = word

end Target

/-- Why a document is not compiled. -/
inductive CompileError where
  /-- Reading it has refused lines; `first` and `more` are the messages. -/
  | refused (first : Text) (more : List Text) (source : Option Text)
  | noPreview (cause : PreviewError)
  deriving DecidableEq, Repr

/-- Why a document is not compiled to a target that is given by name. -/
inductive CompileRequestError where
  | unknownTarget (name : Text)
  | failed (cause : CompileError)
  deriving DecidableEq, Repr

/-- A compiled document. -/
structure Compiled where
  target : Target
  source : Option Text
  output : Text
  blockCount : Nat
  deriving DecidableEq, Repr

namespace CompileError

/-- The text for refused lines. -/
def refusedMessage (first : Text) (more : List Text) (source : Option Text) : Text :=
  let place := match source with
    | none | some [] => []
    | some source => " in ".toList ++ source
  Text.ofNat (more.length + 1) ++ " parse error(s)".toList ++ place ++ ": ".toList ++ first

end CompileError

/-- The text for a target that does not exist. -/
def CompileRequestError.unknownTargetMessage (name : Text) : Text :=
  Text.quoted name ++ " is not a valid RenderTarget".toList

/-- The output for a list of blocks. -/
def Target.render (blocks : List Block) : Target → Except PreviewError Text
  | .html => Preview.ofBlocks blocks
  | .component => .ok (Component.ofBlocks blocks)

namespace Document

/-- Compiles a document to a target. `source` names where it comes from. -/
def compileTo (document : Document) (target : Target) (source : Option Text) :
    Except CompileError Compiled :=
  match document.errors with
  | some (first :: more) => .error (.refused first more source)
  | _ =>
    match target.render document.blocks with
    | .error cause => .error (.noPreview cause)
    | .ok output => .ok ⟨target, source, output, document.blocks.length⟩

/-- Compiles a document to the target of the given name. -/
def compile (document : Document) (targetName : Text) (source : Option Text) :
    Except CompileRequestError Compiled :=
  match document.errors, Target.ofName? targetName with
  | some (first :: more), _ => .error (.failed (.refused first more source))
  | _, none => .error (.unknownTarget targetName)
  | _, some target =>
    match document.compileTo target source with
    | .error cause => .error (.failed cause)
    | .ok compiled => .ok compiled

end Document

end Mockup
