import Mockup.Text.Basic

/-!
# Directives

The words and settings behind an opener, such as `cols-2 gap=4`. A text of directives is cut into
words and equals signs; a word, an equals sign and a word make a setting, any other word stands for
itself. Only plain blanks may stand between them, and the first thing out of place is reported
with its position.
-/

namespace Mockup

/-- A place in a text. Lines and columns count from one, and only a line feed starts a line. -/
structure Position where
  line : Nat
  column : Nat
  deriving DecidableEq, Repr

namespace Position

/-- The place of the first character. -/
def start : Position := ⟨1, 1⟩

/-- The place behind a character. -/
def advance (position : Position) (character : Char) : Position :=
  if character = '\n' then ⟨position.line + 1, 1⟩ else ⟨position.line, position.column + 1⟩

end Position

/-- Why a text is not a list of directives. -/
inductive DirectiveError where
  /-- An equals sign with no word on one of its sides. -/
  | misplacedEquals (position : Position)
  /-- A blank that may not stand between directives. -/
  | strayBlank (position : Position)
  deriving DecidableEq, Repr

/-- The bare words of a text, and its settings in the order in which their keys first occur. -/
structure Directives where
  words : List Text
  settings : List (Text × Text)
  deriving DecidableEq, Repr

namespace Directives

/-- No directives at all. -/
def empty : Directives := ⟨[], []⟩

/-- The value of a setting. -/
def get? (directives : Directives) (key : Text) : Option Text :=
  directives.settings.lookup key

/-- The settings after one more: a key that is set again keeps its place. -/
def put (key value : Text) : List (Text × Text) → List (Text × Text)
  | [] => [(key, value)]
  | (other, old) :: settings =>
    if other = key then (key, value) :: settings else (other, old) :: put key value settings

/-- A piece of a text of directives, with its place. -/
inductive Token where
  | word (content : Text) (position : Position)
  | equals (position : Position)
  | stray (position : Position)
  deriving DecidableEq, Repr

/-- Whether a blank may stand between directives. -/
def isSeparator (character : Char) : Bool :=
  " \t\x0c\r\n".toList.contains character

/-- Cuts a text into tokens. `pending` is the word that is being read, its latest character first,
with the place where it started. -/
def scan (pending : Option (Text × Position)) (position : Position) : Text → List Token
  | [] => (pending.map fun (word, start) => Token.word word.reverse start).toList
  | character :: rest =>
    if character = '=' || Text.isBlank character then
      let finished := (pending.map fun (word, start) => Token.word word.reverse start).toList
      let behind := scan none (position.advance character) rest
      if character = '=' then finished ++ .equals position :: behind
      else if isSeparator character then finished ++ behind
      else finished ++ [.stray position]
    else
      let pending := match pending with
        | some (word, start) => (character :: word, start)
        | none => ([character], position)
      scan (some pending) (position.advance character) rest

/-- The tokens of a text, up to the first stray blank. -/
def tokens (text : Text) : List Token :=
  scan none .start text

/-- Adds the directives that tokens stand for to those already read. -/
def addTokens (directives : Directives) : List Token → Except DirectiveError Directives
  | [] => .ok directives
  | .word key _ :: .equals _ :: .word value _ :: rest =>
    addTokens { directives with settings := put key value directives.settings } rest
  | .word _ _ :: .equals _ :: .equals position :: _ => .error (.misplacedEquals position)
  | .word _ _ :: .equals _ :: .stray position :: _ => .error (.strayBlank position)
  | .word _ _ :: [.equals position] => .error (.misplacedEquals position)
  | .word word _ :: rest => addTokens { directives with words := directives.words ++ [word] } rest
  | .equals position :: _ => .error (.misplacedEquals position)
  | .stray position :: _ => .error (.strayBlank position)

/-- Reads a text of directives. -/
def read (text : Text) : Except DirectiveError Directives :=
  addTokens .empty (tokens text)

end Directives

end Mockup
