import Mockup.Proofs.Jsx.Grammar

/-!
# The tags in a text of markup

A scanner that reads a text of markup character by character and finds the tags in it. It knows
where it is: between tags, in a tag, in a quoted value, in code, or in a string literal, and all of
these may stand inside of each other. A tree of markup has tags of its own. If the tree is spelled
in words, so that none of its names has a meaning for the scanner, then the scanner finds these tags
in the printed tree and no others, whatever texts and names of screens are in it.
-/

namespace Mockup.Jsx

/-- A tag in a text of markup. -/
inductive Tag where
  /-- The start of an element, with the character right behind its name. -/
  | opening (name : Text) (next : Char)
  | closing (name : Text)
  deriving DecidableEq, Repr

def Tag.name : Tag → Text
  | .opening name _ | .closing name => name

/-- What a character is part of. -/
inductive Context where
  /-- What is between tags. -/
  | content
  /-- Code in braces. -/
  | code
  /-- The name at the start of a tag, as far as it has been read. -/
  | opening (read : Text)
  | closing (read : Text)
  /-- What follows the name in a tag; a slash may have been the last character. -/
  | attributes (slash : Bool)
  /-- A quoted value in a tag. -/
  | value
  /-- A string literal in code, up to the given quote. -/
  | literal (quote : Char)
  /-- The character behind a backslash in a literal. -/
  | escape
  deriving DecidableEq, Repr

/-- The quotes around string literals. -/
def quotes : List Char :=
  ['\'', '"', '\x60']

/-- Where the next character stands, and the tag that has been found. The innermost context comes
first. -/
def step (character : Char) : List Context → List Context × Option Tag
  | [] => ([], none)
  | .content :: outer =>
    if character = '<' then (.opening [] :: .content :: outer, none)
    else if character = '\x7b' then (.code :: .content :: outer, none)
    else (.content :: outer, none)
  | .code :: outer =>
    if character = '<' then (.opening [] :: .code :: outer, none)
    else if character = '\x7b' then (.code :: .code :: outer, none)
    else if character = '\x7d' then (outer, none)
    else if character ∈ quotes then (.literal character :: .code :: outer, none)
    else (.code :: outer, none)
  | .opening read :: outer =>
    if character = '/' ∧ read = [] then (.closing [] :: outer, none)
    else if character = '/' then (.attributes true :: outer, some (.opening read character))
    else if character = '>' then (.content :: outer, some (.opening read character))
    else if Text.isBlank character then
      (.attributes false :: outer, some (.opening read character))
    else (.opening (read ++ [character]) :: outer, none)
  | .closing read :: outer =>
    -- The content that the tag closes is left as well.
    if character = '>' then (outer.tail, some (.closing read))
    else (.closing (read ++ [character]) :: outer, none)
  | .attributes slash :: outer =>
    if character = '>' then (if slash then outer else .content :: outer, none)
    else if character = '"' then (.value :: .attributes false :: outer, none)
    else if character = '\x7b' then (.code :: .attributes false :: outer, none)
    else (.attributes (character = '/') :: outer, none)
  | .value :: outer => (if character = '"' then outer else .value :: outer, none)
  | .literal quote :: outer =>
    if character = quote then (outer, none)
    else if character = '\\' then (.escape :: .literal quote :: outer, none)
    else (.literal quote :: outer, none)
  | .escape :: outer => (outer, none)

/-- Scans a text: where it ends, and the tags in it. -/
def scan : List Context → Text → List Context × List Tag
  | contexts, [] => (contexts, [])
  | contexts, character :: rest =>
    let (next, tag) := step character contexts
    let (last, tags) := scan next rest
    (last, tag.toList ++ tags)

/-- The tags in a text of markup. -/
def tagsOf (text : Text) : List Tag :=
  (scan [.content] text).2

/-- Neither a quote between tags nor a tag in a literal or in a value means anything. -/
example : tagsOf "<p>it's</p>\x7bscreen === '<b>' && (<i title=\"<u>\" />)\x7d".toList =
    [.opening "p".toList '>', .closing "p".toList, .opening "i".toList ' '] := by
  decide

variable {contexts next last : List Context} {outer : List Context} {context : Context}

theorem scan_cons (contexts : List Context) (character : Char) (rest : Text) :
    scan contexts (character :: rest) =
      ((scan (step character contexts).1 rest).1,
        (step character contexts).2.toList ++ (scan (step character contexts).1 rest).2) :=
  rfl

/-- One text after the other. -/
theorem scan_append {first second : Text} {tags more : List Tag}
    (front : scan contexts first = (next, tags)) (rest : scan next second = (last, more)) :
    scan contexts (first ++ second) = (last, tags ++ more) := by
  induction first generalizing contexts tags with
  | nil =>
      cases front
      exact rest
  | cons character first ih =>
      rw [scan_cons] at front
      cases front
      rw [List.cons_append, scan_cons, ih rfl, List.append_assoc]

/-- Characters that mean nothing where they stand are passed over. -/
theorem scan_eq_self {text : Text}
    (plain : ∀ character ∈ text, step character contexts = (contexts, none)) :
    scan contexts text = (contexts, []) := by
  induction text with
  | nil => rfl
  | cons character text ih =>
      obtain ⟨first, others⟩ := List.forall_mem_cons.1 plain
      rw [scan_cons, first, ih others]
      rfl

theorem step_content {character : Char} (plain : character ∉ ['<', '\x7b']) :
    step character (.content :: outer) = (.content :: outer, none) := by
  simp only [List.mem_cons, List.not_mem_nil, or_false, not_or] at plain
  rw [step, if_neg plain.1, if_neg plain.2]

theorem step_code {character : Char} (plain : character ∉ '<' :: '\x7b' :: '\x7d' :: quotes) :
    step character (.code :: outer) = (.code :: outer, none) := by
  simp only [List.mem_cons, not_or] at plain
  rw [step, if_neg plain.1, if_neg plain.2.1, if_neg plain.2.2.1, if_neg plain.2.2.2]

theorem step_attributes {character : Char} (plain : character ∉ ['>', '"', '\x7b', '/']) :
    step character (.attributes false :: outer) = (.attributes false :: outer, none) := by
  simp only [List.mem_cons, List.not_mem_nil, or_false, not_or] at plain
  rw [step, if_neg plain.1, if_neg plain.2.1, if_neg plain.2.2.1, decide_eq_false plain.2.2.2]

theorem not_mem_of_isAlphanum {character : Char} (word : character.isAlphanum = true)
    {marks : List Char} (special : marks.all fun mark => !mark.isAlphanum) : character ∉ marks := by
  intro member
  have refused := List.all_eq_true.1 special character member
  rw [word] at refused
  cases refused

theorem scan_content {text : Text} (plain : ∀ character ∈ text, character ∉ ['<', '\x7b']) :
    scan (.content :: outer) text = (.content :: outer, []) :=
  scan_eq_self fun character member => step_content (plain character member)

theorem scan_escape (content : Text) :
    scan (.content :: outer) (EntityTable.jsx.escape content) = (.content :: outer, []) := by
  apply scan_content
  intro character member listed
  apply isText_escape content character member
  simp only [List.mem_cons, List.not_mem_nil, or_false] at listed ⊢
  rcases listed with rfl | rfl <;> simp

/-- An escaped text does not end the quoted value that it stands in. -/
theorem scan_value (content : Text) :
    scan (.value :: outer) (EntityTable.jsx.escape content) = (.value :: outer, []) := by
  apply scan_eq_self
  intro character member
  have differs : character ≠ '"' := by
    rintro rfl
    exact quote_not_mem_escape content member
  rw [step, if_neg differs]

theorem scan_literalCharacter (character : Char) :
    scan (.literal '\'' :: outer) (Text.literalCharacter character) =
      (.literal '\'' :: outer, []) := by
  rw [Text.literalCharacter]
  split
  case isTrue special => rfl
  case isFalse plain =>
    simp only [Bool.or_eq_true, decide_eq_true_eq, not_or] at plain
    rw [scan_cons, step, if_neg plain.2, if_neg plain.1]
    rfl

/-- A literal in code ends at the quote that was written for its end. -/
theorem scan_literal (text : Text) :
    scan (.code :: outer) (Text.literal text) = (.code :: outer, []) := by
  have inside : scan (.literal '\'' :: .code :: outer) (text.flatMap Text.literalCharacter) =
      (.literal '\'' :: .code :: outer, []) := by
    induction text with
    | nil => rfl
    | cons character text ih =>
        rw [List.flatMap_cons]
        exact scan_append (scan_literalCharacter character) ih
  have front : scan (.code :: outer) ['\''] = (.literal '\'' :: .code :: outer, []) := rfl
  exact scan_append (scan_append front inside) rfl

instance : DecidablePred IsIdentifier
  | [] => isFalse id
  | first :: rest =>
    decidable_of_iff ((first.isAlpha && rest.all Char.isAlphanum) = true) (by simp [IsIdentifier])

theorem IsIdentifier.isAlphanum {name : Text} (named : IsIdentifier name) :
    ∀ character ∈ name, character.isAlphanum = true := by
  cases name with
  | nil => exact List.forall_mem_nil _
  | cons first rest =>
      have letter : first.isAlphanum = true := by simp [Char.isAlphanum, named.1]
      exact List.forall_mem_cons.2 ⟨letter, named.2⟩

/-- A name in code means nothing to the scanner. -/
theorem scan_identifier {name : Text} (named : IsIdentifier name) :
    scan (.code :: outer) name = (.code :: outer, []) := by
  apply scan_eq_self
  intro character member
  exact step_code (not_mem_of_isAlphanum (named.isAlphanum character member) rfl)

theorem isBlank_of_isAlphanum {character : Char} (word : character.isAlphanum = true) :
    Text.isBlank character = false := by
  change (decide ('A'.val ≤ character.val ∧ character.val ≤ 'Z'.val) ||
    (decide ('a'.val ≤ character.val) && decide (character.val ≤ 'z'.val)) ||
    (decide ('0'.val ≤ character.val) && decide (character.val ≤ '9'.val))) = true at word
  simp only [Char.reduceVal, UInt32.le_iff_toNat_le, UInt32.reduceToNat, Char.toNat_val,
    Bool.or_eq_true, Bool.and_eq_true, decide_eq_true_eq] at word
  simp only [Text.isBlank, Bool.or_eq_false_iff, Bool.and_eq_false_iff, decide_eq_false_iff_not,
    beq_eq_false_iff_ne]
  omega

theorem step_opening {read : Text} {character : Char} (word : character.isAlphanum = true) :
    step character (.opening read :: outer) = (.opening (read ++ [character]) :: outer, none) := by
  have slash : character ≠ '/' := by
    rintro rfl
    cases word
  have bracket : character ≠ '>' := by
    rintro rfl
    cases word
  rw [step, if_neg fun both => slash both.1, if_neg slash, if_neg bracket,
    isBlank_of_isAlphanum word]
  rfl

/-- The name of a tag is read to its end. -/
theorem scan_opening {name : Text} (word : ∀ character ∈ name, character.isAlphanum = true)
    (read : Text) :
    scan (.opening read :: outer) name = (.opening (read ++ name) :: outer, []) := by
  induction name generalizing read with
  | nil =>
      rw [List.append_nil]
      rfl
  | cons character name ih =>
      obtain ⟨first, others⟩ := List.forall_mem_cons.1 word
      rw [scan_cons, step_opening first, ih others, List.append_assoc]
      rfl

theorem scan_closing {name : Text} (word : ∀ character ∈ name, character.isAlphanum = true)
    (read : Text) :
    scan (.closing read :: outer) name = (.closing (read ++ name) :: outer, []) := by
  induction name generalizing read with
  | nil =>
      rw [List.append_nil]
      rfl
  | cons character name ih =>
      obtain ⟨first, others⟩ := List.forall_mem_cons.1 word
      have inside : character ≠ '>' := by
        rintro rfl
        cases first
      rw [scan_cons, step, if_neg inside, ih others, List.append_assoc]
      rfl

/-- The names in an attribute are words. -/
def Attribute.Worded : Attribute → Prop
  | .key _ => True
  | .text name _ => ∃ listed ∈ attributeNames, listed.toList = name
  | .onClick setter _ => IsIdentifier setter

theorem plain_attributeNames {name : String} (listed : name ∈ attributeNames) :
    ∀ character ∈ ' ' :: name.toList, character ∉ ['>', '"', '\x7b', '/'] := by
  have plain : ∀ name ∈ attributeNames,
      (' ' :: name.toList).all fun character =>
        not (['>', '"', '\x7b', '/'].contains character) := by
    decide
  intro character member
  simpa using List.all_eq_true.1 (plain name listed) character member

namespace Attribute

theorem scan_key (index : Nat) :
    scan (.attributes false :: outer) (Attribute.key index).print =
      (.attributes false :: outer, []) := by
  have front : scan (.attributes false :: outer) " key=\x7b".toList =
    (.code :: .attributes false :: outer, []) := rfl
  have number : scan (.code :: .attributes false :: outer) (Text.ofNat index) =
      (.code :: .attributes false :: outer, []) := by
    apply scan_eq_self
    intro character member
    have digit := (isNumber_ofNat index).2 character member
    exact step_code (not_mem_of_isAlphanum (by simp [Char.isAlphanum, digit]) rfl)
  have behind : scan (.code :: .attributes false :: outer) "\x7d".toList =
    (.attributes false :: outer, []) := rfl
  exact scan_append (scan_append front number) behind

theorem scan_text {name : String} (listed : name ∈ attributeNames) (content : Text) :
    scan (.attributes false :: outer) (Attribute.text name.toList content).print =
      (.attributes false :: outer, []) := by
  have front : scan (.attributes false :: outer) (' ' :: name.toList) =
      (.attributes false :: outer, []) := by
    apply scan_eq_self
    intro character member
    exact step_attributes (plain_attributeNames listed character member)
  have equals : scan (.attributes false :: outer) ['=', '"'] =
    (.value :: .attributes false :: outer, []) := rfl
  have behind : scan (.value :: .attributes false :: outer) ['"'] =
    (.attributes false :: outer, []) := rfl
  exact scan_append (scan_append front (scan_append equals (scan_value content))) behind

theorem scan_onClick {setter : Text} (named : IsIdentifier setter) (screen : Text) :
    scan (.attributes false :: outer) (Attribute.onClick setter screen).print =
      (.attributes false :: outer, []) := by
  have front : scan (.attributes false :: outer) " onClick=\x7b() => ".toList =
    (.code :: .attributes false :: outer, []) := rfl
  have bracket : scan (.code :: .attributes false :: outer) ['('] =
    (.code :: .attributes false :: outer, []) := rfl
  have behind : scan (.code :: .attributes false :: outer) ")\x7d".toList =
    (.attributes false :: outer, []) := rfl
  have call := scan_append front (scan_identifier named)
  exact scan_append (scan_append call (scan_append bracket (scan_literal screen))) behind

/-- An attribute stays inside the tag that it stands in. -/
theorem scan_print {property : Attribute} (worded : property.Worded) :
    scan (.attributes false :: outer) property.print = (.attributes false :: outer, []) := by
  cases property with
  | key index => exact scan_key index
  | text name content =>
      obtain ⟨listed, known, rfl⟩ := worded
      exact scan_text known content
  | onClick setter screen => exact scan_onClick worded screen

end Attribute

/-! ## Trees -/

/-- The character behind the name in an opening tag. -/
def behindName (attributes : List Attribute) : Char :=
  if attributes.isEmpty then '>' else ' '

namespace Phrase

mutual

/-- The tags of a phrase. -/
def tags : Phrase → List Tag
  | .text _ => []
  | .element tag attributes children =>
    .opening tag (behindName attributes) :: allTags children ++ [.closing tag]
  | .void tag _ => [.opening tag ' ']

def allTags : List Phrase → List Tag
  | [] => []
  | phrase :: phrases => phrase.tags ++ allTags phrases

end

mutual

/-- The names in a phrase are words, and those of its tags are as given. -/
def Worded (named : Text → Prop) : Phrase → Prop
  | .text _ => True
  | .element tag attributes children =>
      named tag ∧ (∀ property ∈ attributes, property.Worded) ∧ AllWorded named children
  | .void tag attributes => named tag ∧ ∀ property ∈ attributes, property.Worded

def AllWorded (named : Text → Prop) : List Phrase → Prop
  | [] => True
  | phrase :: phrases => phrase.Worded named ∧ AllWorded named phrases

end

end Phrase

namespace Node

mutual

/-- The tags of a piece of markup. -/
def tags : Node → List Tag
  | .line phrase => phrase.tags
  | .element tag attributes children =>
    .opening tag (behindName attributes) :: allTags children ++ [.closing tag]
  | .guard _ _ body => body.tags

def allTags : List Node → List Tag
  | [] => []
  | node :: nodes => node.tags ++ allTags nodes

end

def isElement : Node → Bool
  | .element .. => true
  | .line _ | .guard .. => false

mutual

/-- The names in markup are words, and those of its tags are as given. A guard is around an
element. -/
def Worded (named : Text → Prop) : Node → Prop
  | .line phrase => phrase.Worded named
  | .element tag attributes children =>
      named tag ∧ (∀ property ∈ attributes, property.Worded) ∧ AllWorded named children
  | .guard state _ body => IsIdentifier state ∧ body.isElement = true ∧ body.Worded named

def AllWorded (named : Text → Prop) : List Node → Prop
  | [] => True
  | node :: nodes => node.Worded named ∧ AllWorded named nodes

end

end Node

/-! ## Printed tags -/

variable {tag : Text} {attributes : List Attribute}

theorem scan_attributes (worded : ∀ property ∈ attributes, property.Worded) :
    scan (.attributes false :: outer) (attributes.flatMap Attribute.print) =
      (.attributes false :: outer, []) := by
  induction attributes with
  | nil => rfl
  | cons property attributes ih =>
      obtain ⟨first, others⟩ := List.forall_mem_cons.1 worded
      rw [List.flatMap_cons]
      exact scan_append (Attribute.scan_print first) (ih others)

/-- A tag may start between tags and in code. -/
def Context.TakesTags (context : Context) : Prop :=
  context = .content ∨ context = .code

theorem scan_tagStart (takes : context.TakesTags) (named : IsIdentifier tag) :
    scan (context :: outer) ('<' :: tag) = (.opening tag :: context :: outer, []) := by
  have front : scan (context :: outer) ['<'] = (.opening [] :: context :: outer, []) := by
    rcases takes with rfl | rfl <;> rfl
  exact scan_append front (scan_opening named.isAlphanum [])

/-- The blank in front of an attribute ends the name of the tag. -/
theorem scan_behindName {text : Text} {tags : List Tag}
    (inside : scan (.attributes false :: outer) (' ' :: text) = (last, tags)) :
    scan (.opening tag :: outer) (' ' :: text) = (last, .opening tag ' ' :: tags) := by
  cases inside
  rfl

theorem Attribute.exists_print (property : Attribute) : ∃ rest, property.print = ' ' :: rest := by
  cases property with
  | key index => exact ⟨_, rfl⟩
  | text name content => exact ⟨_, rfl⟩
  | onClick setter screen => exact ⟨_, rfl⟩

theorem scan_openTag (takes : context.TakesTags) (named : IsIdentifier tag)
    (worded : ∀ property ∈ attributes, property.Worded) :
    scan (context :: outer) (openTag tag attributes) =
      (.content :: context :: outer, [.opening tag (behindName attributes)]) := by
  rw [openTag, List.append_assoc]
  refine scan_append (scan_tagStart takes named) ?_
  cases attributes with
  | nil => rfl
  | cons property attributes =>
      have inside : scan (.attributes false :: context :: outer)
          ((property :: attributes).flatMap Attribute.print ++ ['>']) =
            (.content :: context :: outer, []) :=
        scan_append (scan_attributes worded) rfl
      obtain ⟨rest, blank⟩ := property.exists_print
      rw [List.flatMap_cons, blank] at inside ⊢
      exact scan_behindName inside

theorem scan_void (takes : context.TakesTags) (named : IsIdentifier tag)
    (worded : ∀ property ∈ attributes, property.Worded) :
    scan (context :: outer) (Phrase.void tag attributes).print =
      (context :: outer, [.opening tag ' ']) := by
  have inside : scan (.attributes false :: context :: outer)
      (attributes.flatMap Attribute.print ++ [' ', '/', '>']) = (context :: outer, []) :=
    scan_append (scan_attributes worded) rfl
  rw [Phrase.print, List.append_assoc]
  refine scan_append (scan_tagStart takes named) ?_
  cases attributes with
  | nil => exact scan_behindName inside
  | cons property attributes =>
      obtain ⟨rest, blank⟩ := property.exists_print
      rw [List.flatMap_cons, blank] at inside ⊢
      exact scan_behindName inside

/-- A closing tag leaves the element that it closes. -/
theorem scan_closeTag (named : IsIdentifier tag) :
    scan (.content :: outer) (closeTag tag) = (outer, [.closing tag]) := by
  have front : scan (.content :: outer) ['<', '/'] = (.closing [] :: .content :: outer, []) := rfl
  exact scan_append (scan_append front (scan_closing named.isAlphanum [])) rfl

theorem Context.TakesTags.scan_pad (takes : context.TakesTags) (depth : Nat) :
    scan (context :: outer) (pad depth) = (context :: outer, []) := by
  apply scan_eq_self
  intro character member
  rw [List.eq_of_mem_replicate member]
  rcases takes with rfl | rfl <;> rfl

/-- Neither the indentation of a line nor its end means anything to the scanner. -/
theorem scan_line (before : context.TakesTags) {after : Context} (behind : after.TakesTags)
    {text : Text} {tags : List Tag} (depth : Nat)
    (inside : scan (context :: outer) text = (after :: last, tags)) :
    scan (context :: outer) (Component.printModule [pad depth ++ text]) =
      (after :: last, tags) := by
  have lineFeed : scan (after :: last) ['\n'] = (after :: last, []) := by
    rcases behind with rfl | rfl <;> rfl
  have whole := scan_append (scan_append (before.scan_pad depth) inside) lineFeed
  simpa [Component.printModule] using whole

theorem scan_lines {first second : List Text} {tags more : List Tag}
    (front : scan contexts (Component.printModule first) = (next, tags))
    (rest : scan next (Component.printModule second) = (last, more)) :
    scan contexts (Component.printModule (first ++ second)) = (last, tags ++ more) := by
  rw [Component.printModule, List.flatMap_append]
  exact scan_append front rest

/-- The line that opens a guard leads into code. -/
theorem scan_guard {state : Text} (named : IsIdentifier state) (screen : Text)
    (outer : List Context) :
    scan (.content :: outer) ('\x7b' :: state ++ " === ".toList ++ Text.literal screen ++
      " && (".toList) = (.code :: .content :: outer, []) := by
  have brace : scan (.content :: outer) ['\x7b'] = (.code :: .content :: outer, []) := rfl
  have equals : scan (.code :: .content :: outer) " === ".toList =
    (.code :: .content :: outer, []) := rfl
  have behind : scan (.code :: .content :: outer) " && (".toList =
    (.code :: .content :: outer, []) := rfl
  have compared := scan_append (scan_append brace (scan_identifier named)) equals
  exact scan_append (scan_append compared (scan_literal screen)) behind

variable {named : Text → Prop}

mutual

/-- The scanner finds the tags of a phrase in its text. -/
theorem Phrase.scan_print (identifiers : ∀ tag, named tag → IsIdentifier tag) (phrase : Phrase)
    (worded : phrase.Worded named) (outer : List Context) :
    scan (.content :: outer) phrase.print = (.content :: outer, phrase.tags) := by
  cases phrase with
  | text content => exact scan_escape content
  | element tag attributes children =>
      obtain ⟨known, given, inside⟩ := worded
      have word := identifiers tag known
      have opened := scan_append (scan_openTag (.inl rfl) word given)
        (Phrase.scan_printAll identifiers children inside (.content :: outer))
      exact scan_append opened (scan_closeTag word)
  | void tag attributes => exact scan_void (.inl rfl) (identifiers tag worded.1) worded.2

theorem Phrase.scan_printAll (identifiers : ∀ tag, named tag → IsIdentifier tag)
    (phrases : List Phrase) (worded : AllWorded named phrases) (outer : List Context) :
    scan (.content :: outer) (printAll phrases) = (.content :: outer, allTags phrases) := by
  cases phrases with
  | nil => rfl
  | cons phrase phrases =>
      exact scan_append (Phrase.scan_print identifiers phrase worded.1 outer)
        (Phrase.scan_printAll identifiers phrases worded.2 outer)

end

mutual

/-- The scanner finds the tags of a piece of markup in its lines. In code there are only elements:
a piece of text would be taken for more code. The brace behind a guard leads back to where the guard
began. -/
theorem Node.scan_print (identifiers : ∀ tag, named tag → IsIdentifier tag) (node : Node)
    (worded : node.Worded named) (depth : Nat) {context : Context} (outer : List Context)
    (takes : context = .content ∨ context = .code ∧ node.isElement = true) :
    scan (context :: outer) (Component.printModule (node.print depth)) =
      (context :: outer, node.tags) := by
  cases node with
  | line phrase =>
      obtain rfl : context = .content := takes.resolve_right fun code => Bool.noConfusion code.2
      exact scan_line (.inl rfl) (.inl rfl) depth (phrase.scan_print identifiers worded outer)
  | element tag attributes children =>
      have takes : context.TakesTags := takes.imp_right And.left
      obtain ⟨known, given, inside⟩ := worded
      have word := identifiers tag known
      have opened := scan_lines (scan_line takes (.inl rfl) depth (scan_openTag takes word given))
        (Node.scan_printAll identifiers children inside (depth + 1) (context :: outer))
      exact scan_lines opened (scan_line (.inl rfl) takes depth (scan_closeTag word))
  | guard state screen body =>
      obtain rfl : context = .content := takes.resolve_right fun code => Bool.noConfusion code.2
      obtain ⟨word, element, inside⟩ := worded
      have opened := scan_lines
        (scan_line (.inl rfl) (.inr rfl) depth (scan_guard word screen outer))
        (Node.scan_print identifiers body inside (depth + 1) (.content :: outer)
          (.inr ⟨rfl, element⟩))
      have closed : scan (.code :: .content :: outer) ")\x7d".toList =
        (.content :: outer, []) := rfl
      have whole := scan_lines opened (scan_line (.inr rfl) (.inl rfl) depth closed)
      simpa [print, tags] using whole

theorem Node.scan_printAll (identifiers : ∀ tag, named tag → IsIdentifier tag) (nodes : List Node)
    (worded : AllWorded named nodes) (depth : Nat) (outer : List Context) :
    scan (.content :: outer) (Component.printModule (printAll depth nodes)) =
      (.content :: outer, allTags nodes) := by
  cases nodes with
  | nil => rfl
  | cons node nodes =>
      exact scan_lines (Node.scan_print identifiers node worded.1 depth outer (.inl rfl))
        (Node.scan_printAll identifiers nodes worded.2 depth outer)

end

mutual

/-- The tags of a phrase have the names that it is worded with. -/
theorem Phrase.Worded.named_of_mem (phrase : Phrase) (worded : phrase.Worded named) :
    ∀ tag ∈ phrase.tags, named tag.name := by
  cases phrase with
  | text content => exact List.forall_mem_nil _
  | element tag attributes children =>
      refine List.forall_mem_cons.2 ⟨worded.1, List.forall_mem_append.2 ⟨?_, ?_⟩⟩
      · exact Phrase.AllWorded.named_of_mem children worded.2.2
      · exact List.forall_mem_singleton.2 worded.1
  | void tag attributes => exact List.forall_mem_singleton.2 worded.1

theorem Phrase.AllWorded.named_of_mem (phrases : List Phrase)
    (worded : Phrase.AllWorded named phrases) :
    ∀ tag ∈ Phrase.allTags phrases, named tag.name := by
  cases phrases with
  | nil => exact List.forall_mem_nil _
  | cons phrase phrases =>
      exact List.forall_mem_append.2 ⟨Phrase.Worded.named_of_mem phrase worded.1,
        Phrase.AllWorded.named_of_mem phrases worded.2⟩

end

mutual

theorem Node.Worded.named_of_mem (node : Node) (worded : node.Worded named) :
    ∀ tag ∈ node.tags, named tag.name := by
  cases node with
  | line phrase => exact Phrase.Worded.named_of_mem phrase worded
  | element tag attributes children =>
      refine List.forall_mem_cons.2 ⟨worded.1, List.forall_mem_append.2 ⟨?_, ?_⟩⟩
      · exact Node.AllWorded.named_of_mem children worded.2.2
      · exact List.forall_mem_singleton.2 worded.1
  | guard state screen body => exact Node.Worded.named_of_mem body worded.2.2

theorem Node.AllWorded.named_of_mem (nodes : List Node) (worded : Node.AllWorded named nodes) :
    ∀ tag ∈ Node.allTags nodes, named tag.name := by
  cases nodes with
  | nil => exact List.forall_mem_nil _
  | cons node nodes =>
      exact List.forall_mem_append.2 ⟨Node.Worded.named_of_mem node worded.1,
        Node.AllWorded.named_of_mem nodes worded.2⟩

end

end Mockup.Jsx
