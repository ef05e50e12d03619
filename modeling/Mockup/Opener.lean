import Mockup.Text.Split

/-!
# Openers

Some lines open a block that the following lines belong to. Which openers are looked for depends
on the place: a screen is only opened inside a workflow.
-/

namespace Mockup

/-- What an opening line opens, with the part of the line that describes it. -/
inductive Opener where
  /-- The first line of a table. -/
  | table
  | card (title : Text)
  | grid (config : Text)
  | workflow (directives : Text)
  | div (className : Text)
  | screen (id : Text)
  deriving DecidableEq, Repr

namespace Opener

/-- A table starts with a bar and holds another one. -/
def table? (line : Text) : Option Opener :=
  match Text.trimStart line with
  | '|' :: rest => if rest.contains '|' then some .table else none
  | _ => none

/-- A card starts with a bracket and two hyphens; its title follows. -/
def card? (line : Text) : Option Opener :=
  (Text.after? "[--".toList line).map fun rest => .card (Text.trimStart rest)

/-- A grid starts with its keyword; a blank and its configuration follow. -/
def grid? (line : Text) : Option Opener :=
  (Text.after? "[grid".toList line).bind <| Text.behindBlanks? fun config => some (.grid config)

/-- A workflow starts with its keyword; a blank and directives without a closing bracket may
follow. -/
def workflow? (line : Text) : Option Opener :=
  match Text.after? "[workflow".toList line with
  | none => none
  | some [] => some (.workflow [])
  | some rest =>
    if rest.contains ']' then none
    else Text.behindBlanks? (fun directives => some (.workflow directives)) rest

/-- A bracket opens a plain box if no bracket closes it on the same line; its style classes
follow. -/
def div? (line : Text) : Option Opener :=
  (Text.after? ['['] line).bind fun rest =>
    if rest.contains ']' then none else some (.div (Text.trim rest))

/-- A screen starts with its keyword; a blank and its name follow, and nothing else. -/
def screen? (line : Text) : Option Opener :=
  (Text.after? "[screen".toList line).bind <| Text.behindBlanks? fun named =>
    let isPlain := fun character => !Text.isBlank character && character ≠ ']'
    let id := named.takeWhile isPlain
    if id ≠ [] ∧ Text.allBlank (named.dropWhile isPlain) then some (.screen id) else none

/-- What a line opens outside of a workflow. -/
def ofLine? (line : Text) : Option Opener :=
  [table?, card?, grid?, workflow?, div?].findSome? fun read => read line

/-- What a line opens directly inside a workflow. -/
def ofWorkflowLine? (line : Text) : Option Opener :=
  (screen? line).or (ofLine? line)

end Opener

end Mockup
