import Mockup.Proofs.Jsx.Imports

/-!
# The signs in a text of markup

A reader that cuts a text of markup into its signs: the tags, each closing one with the text right
in front of it, the attributes with their quoted values, and the code in braces. It leaves all of
them as they are written. A tree of markup has signs of its own, and in the printed tree the reader
finds these and no others, whatever texts and names of screens are in it.
-/

namespace Mockup.Jsx

/-- A part of a text of markup, as it is written. -/
inductive Sign where
  | opening (tag : Text)
  /-- A closing tag, with the text between the tag before it and this one. -/
  | closing (before tag : Text)
  | attribute (name value : Text)
  /-- Code in braces: the value of an attribute, or a part of the code between tags. -/
  | code (owner : Option Text) (code : Text)
  deriving DecidableEq, Repr

/-- How far a string literal in code has been read. -/
inductive Quoting where
  | outside
  /-- In a literal, up to the given quote. -/
  | inside (quote : Char)
  /-- Behind a backslash in a literal. -/
  | escaped (quote : Char)
  deriving DecidableEq, Repr

/-- Where a reader stands, with what it has read of the sign at hand. -/
inductive Reader where
  /-- Between tags; code that goes on behind a tag is read here as well. -/
  | content (read : Text)
  /-- In the name of a tag, behind the text `before`. -/
  | tag (before read : Text)
  | attributes
  | name (read : Text)
  | assigned (name : Text)
  | value (name read : Text)
  | code (owner : Option Text) (quoting : Quoting) (read : Text)
  deriving DecidableEq, Repr

/-- The sign for a tag; the name of a closing one starts with a slash. -/
def Sign.ofTag (before : Text) : (read : Text) → Sign
  | '/' :: element => .closing before element
  | element => .opening element

namespace Reader

/-- Where a reader stands behind a character of code, and the sign that the character ends. -/
def stepCode (character : Char) (owner : Option Text) (quoting : Quoting) (read : Text) :
    Reader × Option Sign :=
  match quoting with
  | .outside =>
    if character = '\x7d' then
      (if owner = none then .content [] else .attributes, some (.code owner read))
    else if character = '<' ∧ owner = none then (.tag [] [], some (.code owner read))
    else if character ∈ quotes then (.code owner (.inside character) (read ++ [character]), none)
    else (.code owner .outside (read ++ [character]), none)
  | .inside quote =>
    if character = quote then (.code owner .outside (read ++ [character]), none)
    else if character = '\\' then (.code owner (.escaped quote) (read ++ [character]), none)
    else (.code owner (.inside quote) (read ++ [character]), none)
  | .escaped quote => (.code owner (.inside quote) (read ++ [character]), none)

/-- Where a reader stands behind a character, and the sign that the character ends. -/
def step (character : Char) : Reader → Reader × Option Sign
  | .content read =>
    if character = '<' then (.tag read [], none)
    else if character = '\x7b' then (.code none .outside [], none)
    else if character = '\x7d' then (.content [], some (.code none read))
    else (.content (read ++ [character]), none)
  | .tag before read =>
    if character = '>' then (.content [], some (.ofTag before read))
    else if character = ' ' then (.attributes, some (.ofTag before read))
    else (.tag before (read ++ [character]), none)
  | .attributes =>
    if character = '>' then (.content [], none)
    else if character = ' ' ∨ character = '/' then (.attributes, none)
    else (.name [character], none)
  | .name read =>
    if character = '=' then (.assigned read, none) else (.name (read ++ [character]), none)
  | .assigned owner =>
    if character = '\x7b' then (.code (some owner) .outside [], none) else (.value owner [], none)
  | .value owner read =>
    if character = '"' then (.attributes, some (.attribute owner read))
    else (.value owner (read ++ [character]), none)
  | .code owner quoting read => stepCode character owner quoting read

/-- Reads a text: where the reader ends, and the signs in the text. -/
def run : Reader → Text → Reader × List Sign
  | reader, [] => (reader, [])
  | reader, character :: rest =>
    let (next, sign) := reader.step character
    let (last, signs) := next.run rest
    (last, sign.toList ++ signs)

end Reader

/-- The signs in a text of markup. -/
def signsIn (text : Text) : List Sign :=
  (Reader.run (.content []) text).2

example :
    signsIn
        "<p key=\x7b0\x7d class=\"a\">it's</p>\x7bscreen === '<b>' && (<i />)\x7d".toList =
      [.opening "p".toList, .code (some "key".toList) "0".toList,
        .attribute "class".toList "a".toList, .closing "it's".toList "p".toList,
        .code none "screen === '<b>' && (".toList, .opening "i".toList,
        .code none ")".toList] := by
  decide

variable {reader next last : Reader} {before read text : Text} {owner : Option Text}

namespace Reader

theorem run_cons (reader : Reader) (character : Char) (rest : Text) :
    reader.run (character :: rest) =
      (((reader.step character).1.run rest).1,
        (reader.step character).2.toList ++ ((reader.step character).1.run rest).2) :=
  rfl

/-- One text after the other. -/
theorem run_append {first second : Text} {signs more : List Sign}
    (front : reader.run first = (next, signs)) (rest : next.run second = (last, more)) :
    reader.run (first ++ second) = (last, signs ++ more) := by
  induction first generalizing reader signs with
  | nil =>
      cases front
      exact rest
  | cons character first ih =>
      rw [run_cons] at front
      cases front
      rw [List.cons_append, run_cons, ih rfl, List.append_assoc]

/-- Characters that end nothing where they stand are gathered. -/
theorem run_gather {make : Text → Reader}
    (plain : ∀ character ∈ text, ∀ read,
      (make read).step character = (make (read ++ [character]), none)) (read : Text) :
    (make read).run text = (make (read ++ text), []) := by
  induction text generalizing read with
  | nil =>
      rw [List.append_nil]
      rfl
  | cons character text ih =>
      obtain ⟨first, others⟩ := List.forall_mem_cons.1 plain
      rw [run_cons, first, ih others, List.append_assoc]
      rfl

theorem step_content {character : Char} (plain : character ∉ ['<', '\x7b', '\x7d'])
    (read : Text) :
    (content read).step character = (content (read ++ [character]), none) := by
  simp only [List.mem_cons, List.not_mem_nil, or_false, not_or] at plain
  rw [step, if_neg plain.1, if_neg plain.2.1, if_neg plain.2.2]

theorem step_code {character : Char} (plain : character ∉ '<' :: '\x7d' :: quotes)
    (read : Text) :
    (code owner .outside read).step character =
      (code owner .outside (read ++ [character]), none) := by
  simp only [List.mem_cons, not_or] at plain
  rw [step, stepCode, if_neg plain.2.1, if_neg fun both => plain.1 both.1, if_neg plain.2.2]

theorem step_tag {character : Char} (plain : character ∉ ['>', ' ']) (read : Text) :
    (tag before read).step character = (tag before (read ++ [character]), none) := by
  simp only [List.mem_cons, List.not_mem_nil, or_false, not_or] at plain
  rw [step, if_neg plain.1, if_neg plain.2]

theorem run_escape (content read : Text) :
    (Reader.content read).run (EntityTable.jsx.escape content) =
      (.content (read ++ EntityTable.jsx.escape content), []) := by
  refine run_gather (fun character member => step_content fun listed => ?_) read
  apply isText_escape content character member
  simp only [List.mem_cons, List.not_mem_nil, or_false] at listed ⊢
  rcases listed with rfl | rfl | rfl <;> simp

theorem run_tag {element : Text} (word : ∀ character ∈ element, character.isAlphanum = true)
    (read : Text) : (tag before read).run element = (.tag before (read ++ element), []) :=
  run_gather (fun character member => step_tag (not_mem_of_isAlphanum (word character member) rfl))
    read

/-- A word in code is gathered. -/
theorem run_word {word : Text} (alphanumeric : ∀ character ∈ word, character.isAlphanum = true)
    (read : Text) :
    (code owner .outside read).run word = (.code owner .outside (read ++ word), []) :=
  run_gather (fun character member =>
    step_code (not_mem_of_isAlphanum (alphanumeric character member) rfl)) read

theorem run_literalCharacter (character : Char) (read : Text) :
    (code owner (.inside '\'') read).run (Text.literalCharacter character) =
      (.code owner (.inside '\'') (read ++ Text.literalCharacter character), []) := by
  rw [Text.literalCharacter]
  split
  case isTrue special =>
    have slash : (code owner (.inside '\'') read).step '\\' =
      (.code owner (.escaped '\'') (read ++ ['\\']), none) := rfl
    rw [run_cons, slash, run_cons, step, stepCode, List.append_assoc]
    rfl
  case isFalse plain =>
    simp only [Bool.or_eq_true, decide_eq_true_eq, not_or] at plain
    rw [run_cons, step, stepCode, if_neg plain.2, if_neg plain.1]
    rfl

theorem run_literalCharacters (text read : Text) :
    (code owner (.inside '\'') read).run (text.flatMap Text.literalCharacter) =
      (.code owner (.inside '\'') (read ++ text.flatMap Text.literalCharacter), []) := by
  induction text generalizing read with
  | nil =>
      rw [List.flatMap_nil, List.append_nil]
      rfl
  | cons character text ih =>
      rw [List.flatMap_cons, ← List.append_assoc]
      exact run_append (run_literalCharacter character read) (ih _)

/-- A literal in code is gathered up to the quote that was written for its end. -/
theorem run_literal (text read : Text) :
    (code owner .outside read).run (Text.literal text) =
      (.code owner .outside (read ++ Text.literal text), []) := by
  have front : (code owner .outside read).run ['\''] =
      (.code owner (.inside '\'') (read ++ ['\'']), []) := by
    cases owner <;> rfl
  have inside : (code owner (.inside '\'') (read ++ ['\''])).run
      (text.flatMap Text.literalCharacter) = _ := run_literalCharacters text _
  have behind : (code owner (.inside '\'') (read ++ ['\''] ++
      text.flatMap Text.literalCharacter)).run ['\''] = (.code owner .outside _, []) := rfl
  have whole := run_append (run_append front inside) behind
  simpa [Text.literal] using whole

end Reader

namespace Attribute

/-- The sign of an attribute. -/
def sign : Attribute → Sign
  | .key index => .code (some "key".toList) (Text.ofNat index)
  | .text name content => .attribute name (EntityTable.jsx.escape content)
  | .onClick setter screen =>
    .code (some "onClick".toList)
      ("() => ".toList ++ setter ++ ['('] ++ Text.literal screen ++ [')'])

theorem run_key (index : Nat) :
    Reader.attributes.run (Attribute.key index).print =
      (.attributes, [(Attribute.key index).sign]) := by
  have front : Reader.attributes.run " key=\x7b".toList =
    (.code (some "key".toList) .outside [], []) := rfl
  have digits : ∀ character ∈ Text.ofNat index, character.isAlphanum = true :=
    fun character member => by simp [Char.isAlphanum, (isNumber_ofNat index).2 character member]
  have number : (Reader.code (some "key".toList) .outside []).run (Text.ofNat index) = _ :=
    Reader.run_word digits []
  have behind : (Reader.code (some "key".toList) .outside (Text.ofNat index)).run ['\x7d'] =
    (.attributes, [(Attribute.key index).sign]) := rfl
  exact Reader.run_append (Reader.run_append front number) behind

theorem run_text {name : String} (listed : name ∈ attributeNames) (content : Text) :
    Reader.attributes.run (Attribute.text name.toList content).print =
      (.attributes, [(Attribute.text name.toList content).sign]) := by
  have named : ∀ name ∈ attributeNames, Reader.attributes.run (' ' :: name.toList ++ ['=', '"']) =
      (.value name.toList [], []) := by
    decide +kernel
  have value : (Reader.value name.toList []).run (EntityTable.jsx.escape content) =
      (.value name.toList (EntityTable.jsx.escape content), []) := by
    refine Reader.run_gather (fun character member read => ?_) []
    have inside : character ≠ '"' := by
      rintro rfl
      exact quote_not_mem_escape content member
    rw [Reader.step, if_neg inside]
  have behind : (Reader.value name.toList (EntityTable.jsx.escape content)).run ['"'] =
    (.attributes, [(Attribute.text name.toList content).sign]) := rfl
  have shape : (Attribute.text name.toList content).print =
      ' ' :: name.toList ++ ['=', '"'] ++ EntityTable.jsx.escape content ++ ['"'] :=
    congrArg (· ++ ['"']) (List.append_assoc (' ' :: name.toList) ['=', '"'] _).symm
  rw [shape]
  exact Reader.run_append (Reader.run_append (named name listed) value) behind

theorem run_onClick {setter : Text} (named : IsIdentifier setter) (screen : Text) :
    Reader.attributes.run (Attribute.onClick setter screen).print =
      (.attributes, [(Attribute.onClick setter screen).sign]) := by
  have front : Reader.attributes.run " onClick=\x7b() => ".toList =
      (.code (some "onClick".toList) .outside "() => ".toList, []) := by
    decide +kernel
  have call : (Reader.code (some "onClick".toList) .outside "() => ".toList).run setter = _ :=
    Reader.run_word named.isAlphanum _
  have bracket : (Reader.code (some "onClick".toList) .outside ("() => ".toList ++ setter)).run
      ['('] = (.code (some "onClick".toList) .outside ("() => ".toList ++ setter ++ ['(']), []) :=
    rfl
  have literal : (Reader.code (some "onClick".toList) .outside
      ("() => ".toList ++ setter ++ ['('])).run (Text.literal screen) = _ :=
    Reader.run_literal screen _
  have behind : (Reader.code (some "onClick".toList) .outside
      ("() => ".toList ++ setter ++ ['('] ++ Text.literal screen)).run ")\x7d".toList =
    (.attributes, [.code (some "onClick".toList)
      ("() => ".toList ++ setter ++ ['('] ++ Text.literal screen ++ [')'])]) := rfl
  have shape : (Attribute.onClick setter screen).print =
      " onClick=\x7b() => ".toList ++ setter ++ ['('] ++ Text.literal screen ++ ")\x7d".toList :=
    congrArg (· ++ ")\x7d".toList) (List.append_cons _ '(' (Text.literal screen))
  rw [shape]
  exact Reader.run_append (Reader.run_append (Reader.run_append (Reader.run_append front call)
    bracket) literal) behind

/-- The reader finds the sign of an attribute and goes on behind it. -/
theorem run_print {property : Attribute} (worded : property.Worded) :
    Reader.attributes.run property.print = (.attributes, [property.sign]) := by
  cases property with
  | key index => exact run_key index
  | text name content =>
      obtain ⟨listed, known, rfl⟩ := worded
      exact run_text known content
  | onClick setter screen => exact run_onClick worded screen

end Attribute

/-! ## Trees -/

namespace Phrase

mutual

/-- The text behind the last tag, if `read` is the text in front of the phrase. -/
def tail (read : Text) : Phrase → Text
  | .text content => read ++ EntityTable.jsx.escape content
  | .element .. | .void .. => []

def tailOf (read : Text) : List Phrase → Text
  | [] => read
  | phrase :: phrases => tailOf (phrase.tail read) phrases

end

mutual

/-- The signs of a phrase. -/
def signs : Phrase → List Sign
  | .text _ => []
  | .element tag attributes children =>
    .opening tag :: attributes.map Attribute.sign ++ signsOf children ++
      [.closing (tailOf [] children) tag]
  | .void tag attributes => .opening tag :: attributes.map Attribute.sign

def signsOf : List Phrase → List Sign
  | [] => []
  | phrase :: phrases => phrase.signs ++ signsOf phrases

end

end Phrase

namespace Node

/-- The text behind the last tag of a piece of markup that is indented by `depth` levels, if `read`
is the text in front of it. -/
def tail (depth : Nat) (read : Text) : Node → Text
  | .line phrase => phrase.tail (read ++ pad depth) ++ ['\n']
  | .element .. | .guard .. => ['\n']

def tailOf (depth : Nat) (read : Text) : List Node → Text
  | [] => read
  | node :: nodes => tailOf depth (node.tail depth read) nodes

/-- The code on the first line of a guard, up to the next line. -/
def guardCode (state screen : Text) : Text :=
  state ++ " === ".toList ++ Text.literal screen ++ " && (\n".toList

mutual

/-- The signs of a piece of markup that is indented by `depth` levels. -/
def signs (depth : Nat) : Node → List Sign
  | .line phrase => phrase.signs
  | .element tag attributes children =>
    .opening tag :: attributes.map Attribute.sign ++ signsOf (depth + 1) children ++
      [.closing (tailOf (depth + 1) ['\n'] children ++ pad depth) tag]
  | .guard state screen body =>
    .code none (guardCode state screen ++ pad (depth + 1)) :: body.signs (depth + 1) ++
      [.code none ('\n' :: pad depth ++ [')'])]

def signsOf (depth : Nat) : List Node → List Sign
  | [] => []
  | node :: nodes => node.signs depth ++ signsOf depth nodes

end

end Node

/-! ## Printed tags -/

variable {tag : Text} {attributes : List Attribute} {signs : List Sign}

theorem run_attributes (worded : ∀ property ∈ attributes, property.Worded) :
    Reader.attributes.run (attributes.flatMap Attribute.print) =
      (.attributes, attributes.map Attribute.sign) := by
  induction attributes with
  | nil => rfl
  | cons property attributes ih =>
      obtain ⟨first, others⟩ := List.forall_mem_cons.1 worded
      rw [List.flatMap_cons]
      exact Reader.run_append (Attribute.run_print first) (ih others)

theorem Sign.ofTag_of_isIdentifier (named : IsIdentifier tag) (before : Text) :
    Sign.ofTag before tag = .opening tag := by
  rcases tag with _ | ⟨first, rest⟩
  · rfl
  · rw [Sign.ofTag]
    rintro element ⟨rfl, -⟩
    cases named.1

/-- The blank in front of an attribute ends the name of the tag. -/
theorem run_behindName (named : IsIdentifier tag)
    (inside : Reader.attributes.run (' ' :: text) = (last, signs)) :
    (Reader.tag before tag).run (' ' :: text) = (last, .opening tag :: signs) := by
  have blank : (Reader.tag before tag).step ' ' = (.attributes, some (.ofTag before tag)) := rfl
  cases inside
  rw [Reader.run_cons, blank, Sign.ofTag_of_isIdentifier named]
  rfl

/-- Behind the bracket of an opening tag its name, its attributes and its end are read. -/
theorem run_openTag (named : IsIdentifier tag)
    (worded : ∀ property ∈ attributes, property.Worded) :
    (Reader.tag before []).run (tag ++ attributes.flatMap Attribute.print ++ ['>']) =
      (.content [], .opening tag :: attributes.map Attribute.sign) := by
  rw [List.append_assoc]
  refine Reader.run_append (Reader.run_tag named.isAlphanum []) ?_
  cases attributes with
  | nil =>
      have bracket : (Reader.tag before tag).step '>' =
        (.content [], some (.ofTag before tag)) := rfl
      rw [List.flatMap_nil, List.nil_append, List.nil_append, Reader.run_cons, bracket,
        Sign.ofTag_of_isIdentifier named]
      rfl
  | cons property attributes =>
      have bracket : Reader.attributes.run ['>'] = (.content [], []) := rfl
      have inside := Reader.run_append (run_attributes worded) bracket
      rw [List.append_nil] at inside
      obtain ⟨rest, blank⟩ := property.exists_print
      rw [List.flatMap_cons, blank] at inside ⊢
      exact run_behindName named inside

theorem run_void (named : IsIdentifier tag) (worded : ∀ property ∈ attributes, property.Worded) :
    (Reader.content read).run (Phrase.void tag attributes).print =
      (.content [], (Phrase.void tag attributes).signs) := by
  have bracket : (Reader.content read).run ['<'] = (.tag read [], []) := rfl
  have behind : Reader.attributes.run [' ', '/', '>'] = (.content [], []) := rfl
  have inside := Reader.run_append (run_attributes worded) behind
  rw [List.append_nil] at inside
  rw [Phrase.print, List.append_assoc]
  refine Reader.run_append (Reader.run_append bracket (Reader.run_tag named.isAlphanum [])) ?_
  cases attributes with
  | nil => exact run_behindName named inside
  | cons property attributes =>
      obtain ⟨rest, blank⟩ := property.exists_print
      rw [List.flatMap_cons, blank] at inside ⊢
      exact run_behindName named inside

theorem run_closeTag (named : IsIdentifier tag) (read : Text) :
    (Reader.content read).run (closeTag tag) = (.content [], [.closing read tag]) := by
  have front : (Reader.content read).run ['<', '/'] = (.tag read ['/'], []) := rfl
  have behind : (Reader.tag read ('/' :: tag)).run ['>'] =
    (.content [], [.closing read tag]) := rfl
  exact Reader.run_append (Reader.run_append front (Reader.run_tag named.isAlphanum ['/'])) behind

variable {named : Text → Prop}

mutual

/-- The reader finds the signs of a phrase in its text. -/
theorem Phrase.run_print (identifiers : ∀ tag, named tag → IsIdentifier tag) (phrase : Phrase)
    (worded : phrase.Worded named) (read : Text) :
    (Reader.content read).run phrase.print = (.content (phrase.tail read), phrase.signs) := by
  cases phrase with
  | text content => exact Reader.run_escape content read
  | element tag attributes children =>
      obtain ⟨known, given, inside⟩ := worded
      have word := identifiers tag known
      have bracket : (Reader.content read).run ['<'] = (.tag read [], []) := rfl
      have opened := Reader.run_append bracket (run_openTag word given)
      exact Reader.run_append
        (Reader.run_append opened (Phrase.run_printAll identifiers children inside []))
        (run_closeTag word _)
  | void tag attributes => exact run_void (identifiers tag worded.1) worded.2

theorem Phrase.run_printAll (identifiers : ∀ tag, named tag → IsIdentifier tag)
    (phrases : List Phrase) (worded : AllWorded named phrases) (read : Text) :
    (Reader.content read).run (printAll phrases) =
      (.content (Phrase.tailOf read phrases), Phrase.signsOf phrases) := by
  cases phrases with
  | nil => rfl
  | cons phrase phrases =>
      exact Reader.run_append (Phrase.run_print identifiers phrase worded.1 read)
        (Phrase.run_printAll identifiers phrases worded.2 (phrase.tail read))

end

theorem Reader.run_pad (depth : Nat) (read : Text) :
    (Reader.content read).run (pad depth) = (.content (read ++ pad depth), []) := by
  refine run_gather (fun character member => step_content ?_) read
  rw [List.eq_of_mem_replicate member]
  decide

/-- An element over several lines is read from behind the bracket of its opening tag. -/
theorem run_element {children : List Node} {inside : List Sign} (word : IsIdentifier tag)
    (given : ∀ property ∈ attributes, property.Worded) (depth : Nat)
    (contents : (Reader.content ['\n']).run (Component.printModule
      (Node.printAll (depth + 1) children)) = (.content read, inside))
    (bracket : reader.run (pad depth ++ ['<']) = (.tag before [], signs)) :
    reader.run (Component.printModule ((Node.element tag attributes children).print depth)) =
      (.content ['\n'], signs ++ (.opening tag :: attributes.map Attribute.sign ++ inside ++
        [.closing (read ++ pad depth) tag])) := by
  have lineFeed : (Reader.content []).run ['\n'] = (.content ['\n'], []) := rfl
  have closed := Reader.run_append (Reader.run_append (Reader.run_pad depth read)
    (run_closeTag word (read ++ pad depth))) lineFeed
  have tagged : (Reader.tag before []).run
      (tag ++ attributes.flatMap Attribute.print ++ ['>']) = _ :=
    run_openTag word given
  have opened := Reader.run_append tagged lineFeed
  have whole := Reader.run_append bracket
    (Reader.run_append (Reader.run_append opened contents) closed)
  simpa [Node.print, Component.printModule, openTag] using whole

theorem Reader.run_code (plain : ∀ character ∈ text, character ∉ '<' :: '\x7d' :: quotes)
    (read : Text) :
    (Reader.code owner .outside read).run text = (.code owner .outside (read ++ text), []) :=
  run_gather (fun character member => step_code (plain character member)) read

/-- Code between tags ends at the bracket of a tag. -/
theorem run_codeBracket (depth : Nat) (code : Text) :
    (Reader.code none .outside code).run (pad depth ++ ['<']) =
      (.tag [] [], [.code none (code ++ pad depth)]) := by
  have plain : ∀ character ∈ pad depth, character ∉ '<' :: '\x7d' :: quotes := by
    intro character member
    rw [List.eq_of_mem_replicate member]
    decide
  exact Reader.run_append (Reader.run_code plain code) rfl

/-- The first line of a guard is code. -/
theorem run_guard {state : Text} (word : IsIdentifier state) (screen : Text) (depth : Nat) :
    (Reader.content read).run (pad depth ++ ['\x7b'] ++ Node.guardCode state screen) =
      (.code none .outside (Node.guardCode state screen), []) := by
  have brace : (Reader.content (read ++ pad depth)).run ['\x7b'] =
    (.code none .outside [], []) := rfl
  have equals : (Reader.code none .outside state).run " === ".toList = _ :=
    Reader.run_code (by simp [quotes]) state
  have behind : (Reader.code none .outside
      (state ++ " === ".toList ++ Text.literal screen)).run " && (\n".toList = _ :=
    Reader.run_code (by simp [quotes]) _
  have compared := Reader.run_append (Reader.run_append (Reader.run_append
    (Reader.run_word word.isAlphanum []) equals) (Reader.run_literal screen _)) behind
  exact Reader.run_append (Reader.run_append (Reader.run_pad depth read) brace) compared

/-- The last line of a guard ends its code. -/
theorem run_guardEnd (depth : Nat) :
    (Reader.content ['\n']).run (pad depth ++ [')', '\x7d', '\n']) =
      (.content ['\n'], [.code none ('\n' :: pad depth ++ [')'])]) :=
  Reader.run_append (Reader.run_pad depth ['\n']) rfl

mutual

/-- The reader finds the signs of a piece of markup in its lines. -/
theorem Node.run_print (identifiers : ∀ tag, named tag → IsIdentifier tag) (node : Node)
    (worded : node.Worded named) (depth : Nat) (read : Text) :
    (Reader.content read).run (Component.printModule (node.print depth)) =
      (.content (node.tail depth read), node.signs depth) := by
  cases node with
  | line phrase =>
      have lineFeed : ∀ read, (Reader.content read).run ['\n'] =
          (.content (read ++ ['\n']), []) :=
        fun _ => rfl
      have whole := Reader.run_append (Reader.run_append (Reader.run_pad depth read)
        (phrase.run_print identifiers worded (read ++ pad depth))) (lineFeed _)
      simpa [Node.print, Component.printModule, Node.tail, Node.signs] using whole
  | element tag attributes children =>
      obtain ⟨known, given, inside⟩ := worded
      have bracket : (Reader.content read).run (pad depth ++ ['<']) =
          (.tag (read ++ pad depth) [], []) :=
        Reader.run_append (Reader.run_pad depth read) rfl
      exact run_element (identifiers tag known) given depth
        (Node.run_printAll identifiers children inside (depth + 1) ['\n']) bracket
  | guard state screen body =>
      obtain ⟨word, element, worded⟩ := worded
      cases body with
      | line | guard => cases element
      | element tag attributes children =>
          obtain ⟨known, given, inside⟩ := worded
          have shown := run_element (identifiers tag known) given (depth + 1)
            (Node.run_printAll identifiers children inside (depth + 2) ['\n'])
            (run_codeBracket (depth + 1) (Node.guardCode state screen))
          have guarded : (Reader.content read).run
              (pad depth ++ ['\x7b'] ++ Node.guardCode state screen) = _ :=
            run_guard word screen depth
          have whole := Reader.run_append (Reader.run_append guarded shown) (run_guardEnd depth)
          simpa [Node.print, Component.printModule, Node.tail, Node.signs, Node.guardCode]
            using whole

theorem Node.run_printAll (identifiers : ∀ tag, named tag → IsIdentifier tag)
    (nodes : List Node) (worded : AllWorded named nodes) (depth : Nat) (read : Text) :
    (Reader.content read).run (Component.printModule (printAll depth nodes)) =
      (.content (Node.tailOf depth read nodes), Node.signsOf depth nodes) := by
  cases nodes with
  | nil => rfl
  | cons node nodes =>
      have whole := Reader.run_append (Node.run_print identifiers node worded.1 depth read)
        (Node.run_printAll identifiers nodes worded.2 depth (node.tail depth read))
      simpa [Node.printAll, Component.printModule, Node.tailOf, Node.signsOf] using whole

end

/-- The signs in the text of some markup are those of the tree. -/
theorem signsIn_printAll (identifiers : ∀ tag, named tag → IsIdentifier tag) (nodes : List Node)
    (worded : Node.AllWorded named nodes) (depth : Nat) :
    signsIn (Component.printModule (Node.printAll depth nodes)) = Node.signsOf depth nodes := by
  rw [signsIn, Node.run_printAll identifiers nodes worded]

end Mockup.Jsx

namespace Mockup.Component

/-- The signs in the text of the markup are those of the tree. -/
theorem signsIn_markup (blocks : List Block) :
    Jsx.signsIn (markup blocks) = Jsx.Node.signsOf 3 (body blocks) :=
  Jsx.signsIn_printAll Jsx.isIdentifier_of_known _ (worded_body blocks) 3

end Mockup.Component
