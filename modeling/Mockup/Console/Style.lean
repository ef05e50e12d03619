import Mockup.Console.Color

/-!
# Styles

A style is given by words: effects, which `not` turns off, a colour, a background behind `on`,
and an address behind `link`. Different words may give the same style, so that each style has a
normal form: the effects in a fixed order, then the colours, then the address.
-/

namespace Mockup

/-- What a style does to letters, in the order of the normal form. -/
inductive Effect where
  | bold
  | dim
  | italic
  | underline
  | blink
  | fastBlink
  | reverse
  | conceal
  | strike
  | doubleUnderline
  | frame
  | encircle
  | overline
  deriving DecidableEq, Repr

namespace Effect

/-- All effects in the order of the normal form. -/
def all : List Effect :=
  [.bold, .dim, .italic, .underline, .blink, .fastBlink, .reverse, .conceal, .strike,
    .doubleUnderline, .frame, .encircle, .overline]

/-- The name of an effect. -/
def name : Effect → String
  | .bold => "bold"
  | .dim => "dim"
  | .italic => "italic"
  | .underline => "underline"
  | .blink => "blink"
  | .fastBlink => "blink2"
  | .reverse => "reverse"
  | .conceal => "conceal"
  | .strike => "strike"
  | .doubleUnderline => "underline2"
  | .frame => "frame"
  | .encircle => "encircle"
  | .overline => "overline"

/-- The short name of an effect. -/
def shortName? : Effect → Option String
  | .bold => some "b"
  | .dim => some "d"
  | .italic => some "i"
  | .underline => some "u"
  | .reverse => some "r"
  | .conceal => some "c"
  | .strike => some "s"
  | .doubleUnderline => some "uu"
  | .overline => some "o"
  | .blink | .fastBlink | .frame | .encircle => none

/-- The effect that a word names. -/
def ofWord? (word : Text) : Option Effect :=
  all.find? fun effect =>
    effect.name.toList = word || effect.shortName?.any (·.toList = word)

end Effect

/-- A style. -/
structure Style where
  /-- The effects that are turned on or off; the first mention of one counts. -/
  effects : List (Effect × Bool)
  color : Option Text
  background : Option Text
  link : Option Text
  deriving DecidableEq, Repr

/-- Why words do not give a style. -/
inductive StyleError where
  /-- A word has no meaning where it stands. -/
  | notStyle
  /-- A component of a colour is not a number. -/
  | notNumber (cause : NumberError)
  deriving DecidableEq, Repr

namespace Style

/-- The style that changes nothing. -/
def plain : Style := ⟨[], none, none, none⟩

/-- The colour that a word of a style stands for. -/
def readColor (word : Text) : Except StyleError Text :=
  match Color.ofWord? word with
  | .error cause => .error (.notNumber cause)
  | .ok none => .error .notStyle
  | .ok (some color) => .ok color

/-- Adds what words say to a style. -/
def readWords (style : Style) : List Text → Except StyleError Style
  | [] => .ok style
  | word :: words =>
    let lowered := Text.lower word
    if lowered = "on".toList then
      match words with
      | [] => .error .notStyle
      | next :: words => do
        let color ← readColor next
        readWords { style with background := some color } words
    else if lowered = "not".toList then
      match words with
      | [] => .error .notStyle
      | next :: words =>
        match Effect.ofWord? next with
        | none => .error .notStyle
        | some effect =>
          readWords { style with effects := (effect, false) :: style.effects } words
    else if lowered = "link".toList then
      match words with
      | [] => .error .notStyle
      | next :: words => readWords { style with link := some next } words
    else
      match Effect.ofWord? lowered with
      | some effect =>
        readWords { style with effects := (effect, true) :: style.effects } words
      | none => do
        let color ← readColor lowered
        readWords { style with color := some color } words

/-- The style that a text gives. -/
def read (text : Text) : Except StyleError Style :=
  if Text.trim text = "none".toList then .ok plain else readWords plain (Text.words text)

/-- The normal form of a style. -/
def text (style : Style) : Text :=
  let effects := Effect.all.filterMap fun effect =>
    (style.effects.lookup effect).map fun enabled =>
      if enabled then effect.name.toList else "not ".toList ++ effect.name.toList
  let words := effects ++ style.color.toList ++
    (style.background.map ("on ".toList ++ ·)).toList ++
    (style.link.map ("link ".toList ++ ·)).toList
  if words = [] then "none".toList else Text.joined [' '] words

/-- The normal form of a text that may give a style; one that does not is put in lower case. -/
def normalize (text : Text) : Except NumberError Text :=
  match read text with
  | .ok style => .ok style.text
  | .error .notStyle => .ok (Text.lower (Text.trim text))
  | .error (.notNumber cause) => .error cause

/-- Why the colours of a style cannot be read, if it is because of a component. -/
def fault? (text : Text) : Option NumberError :=
  match read text with
  | .error (.notNumber cause) => some cause
  | _ => none

end Style

end Mockup
