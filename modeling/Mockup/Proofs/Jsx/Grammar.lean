import Mockup.Jsx.Component
import Mockup.Proofs.Entities

/-!
# The grammar of generated markup

A tree of markup derives a text if the text is written by the rules of JSX and has the shape of the
tree: every content, attribute value and screen name of the tree is read from a single token of the
text. So a derivation shows that the text is well-formed, and that none of these strings opens or
closes anything.

Markup is printed line by line. A printed tree derives its lines if its parts do, so that for a
component only its vocabulary and its names remain to be looked at.
-/

namespace Mockup.Jsx

/-- The characters that end a line of script code. -/
def lineTerminators : List Char :=
  ['\n', '\r', '\u2028', '\u2029']

/-- The inside of a single-quoted literal, with the text that the literal stands for. -/
inductive LiteralInside : (value inside : Text) → Prop where
  | nil : LiteralInside [] []
  | plain {character : Char} {value inside : Text} (free : character ∉ ['\\', '\''])
      (oneLine : character ∉ lineTerminators) (rest : LiteralInside value inside) :
      LiteralInside (character :: value) (character :: inside)
  | escaped {character : Char} {value inside : Text} (special : character ∈ ['\\', '\''])
      (rest : LiteralInside value inside) :
      LiteralInside (character :: value) ('\\' :: character :: inside)

/-- A single-quoted literal for a text. -/
def IsLiteral (value text : Text) : Prop :=
  ∃ inside, text = '\'' :: inside ++ ['\''] ∧ LiteralInside value inside

/-- The name of a variable. -/
def IsIdentifier : Text → Prop
  | [] => False
  | first :: rest => first.isAlpha = true ∧ ∀ character ∈ rest, character.isAlphanum = true

/-- A number in decimal digits. -/
def IsNumber (text : Text) : Prop :=
  text ≠ [] ∧ ∀ character ∈ text, character.isDigit = true

/-- What may stand between tags. -/
def IsText (text : Text) : Prop :=
  ∀ character ∈ text, character ∉ ['<', '>', '\x7b', '\x7d']

/-- The blanks and line feeds between lines of markup. -/
def IsSpace (text : Text) : Prop :=
  ∀ character ∈ text, character ∈ [' ', '\n']

/-- The tags of the elements with content. -/
def containers : List String :=
  ["h1", "h2", "h3", "h4", "h5", "h6", "p", "strong", "em", "div", "Label", "Button", "Select",
    "SelectTrigger", "SelectContent", "SelectItem", "RadioGroup", "Table", "TableHeader",
    "TableBody", "TableRow", "TableHead", "TableCell", "Card", "CardHeader", "CardTitle",
    "CardContent"]

/-- The tags of the elements without content. -/
def voids : List String :=
  ["Input", "Textarea", "Checkbox", "RadioGroupItem", "SelectValue", "img"]

/-- The attributes with a quoted value. -/
def attributeNames : List String :=
  ["className", "htmlFor", "id", "type", "placeholder", "value", "variant", "src", "alt",
    "data-screen-id"]

/-- An attribute, with the blank in front of it. -/
inductive Attribute.Derives : Attribute → Text → Prop where
  | key {index : Nat} {number : Text} (numeric : IsNumber number)
      (read : Nat.ofDigitChars 10 number 0 = index) :
      Derives (.key index) (" key=\x7b".toList ++ number ++ "\x7d".toList)
  | text {name : String} {content value : Text} (listed : name ∈ attributeNames)
      (closed : '"' ∉ value) (read : EntityTable.jsx.unescape value = content) :
      Derives (.text name.toList content) (' ' :: name.toList ++ '=' :: '"' :: value ++ ['"'])
  | onClick {setter screen literal : Text} (named : IsIdentifier setter)
      (quoted : IsLiteral screen literal) :
      Derives (.onClick setter screen)
        (" onClick=\x7b() => ".toList ++ setter ++ '(' :: literal ++ ")\x7d".toList)

inductive Attribute.AllDerive : List Attribute → Text → Prop where
  | nil : AllDerive [] []
  | cons {property : Attribute} {properties : List Attribute} {text rest : Text}
      (first : property.Derives text) (others : AllDerive properties rest) :
      AllDerive (property :: properties) (text ++ rest)

mutual

/-- Markup on one line. -/
inductive Phrase.Derives : Phrase → Text → Prop where
  | text {content text : Text} (plain : IsText text)
      (read : EntityTable.jsx.unescape text = content) :
      Phrase.Derives (.text content) text
  | element {tag : String} {attributes : List Attribute} {children : List Phrase}
      {written inside : Text} (listed : tag ∈ containers)
      (given : Attribute.AllDerive attributes written)
      (contents : Phrase.AllDerive children inside) :
      Phrase.Derives (.element tag.toList attributes children)
        ("<".toList ++ tag.toList ++ written ++ ">".toList ++ inside ++
          "</".toList ++ tag.toList ++ ">".toList)
  | void {tag : String} {attributes : List Attribute} {written : Text} (listed : tag ∈ voids)
      (given : Attribute.AllDerive attributes written) :
      Phrase.Derives (.void tag.toList attributes)
        ("<".toList ++ tag.toList ++ written ++ " />".toList)

inductive Phrase.AllDerive : List Phrase → Text → Prop where
  | nil : Phrase.AllDerive [] []
  | cons {phrase : Phrase} {phrases : List Phrase} {text rest : Text}
      (first : Phrase.Derives phrase text) (others : Phrase.AllDerive phrases rest) :
      Phrase.AllDerive (phrase :: phrases) (text ++ rest)

end

mutual

/-- Markup over several lines. A guard is around an element. -/
inductive Node.Derives : Node → Text → Prop where
  | line {phrase : Phrase} {text : Text} (single : phrase.Derives text) :
      Node.Derives (.line phrase) text
  | element {tag : String} {attributes : List Attribute} {children : List Node}
      {written inside : Text} (listed : tag ∈ containers)
      (given : Attribute.AllDerive attributes written)
      (contents : Node.AllDerive children inside) :
      Node.Derives (.element tag.toList attributes children)
        ("<".toList ++ tag.toList ++ written ++ ">".toList ++ inside ++
          "</".toList ++ tag.toList ++ ">".toList)
  | guard {state screen tag : Text} {attributes : List Attribute} {children : List Node}
      {literal before text after : Text} (named : IsIdentifier state)
      (quoted : IsLiteral screen literal) (above : IsSpace before) (below : IsSpace after)
      (shown : Node.Derives (.element tag attributes children) text) :
      Node.Derives (.guard state screen (.element tag attributes children))
        ("\x7b".toList ++ state ++ " === ".toList ++ literal ++ " && (".toList ++ before ++ text ++
          after ++ ")\x7d".toList)

inductive Node.AllDerive : List Node → Text → Prop where
  | nil {space : Text} (blank : IsSpace space) : Node.AllDerive [] space
  | cons {node : Node} {nodes : List Node} {space text rest : Text} (blank : IsSpace space)
      (first : Node.Derives node text) (others : Node.AllDerive nodes rest) :
      Node.AllDerive (node :: nodes) (space ++ text ++ rest)

end

/-! ## Printed tokens -/

/-- A text without line terminators is quoted by a literal. -/
theorem isLiteral_literal {value : Text}
    (oneLine : ∀ character ∈ value, character ∉ lineTerminators) :
    IsLiteral value (Text.literal value) := by
  refine ⟨_, rfl, ?_⟩
  induction value with
  | nil => exact .nil
  | cons character value ih =>
      obtain ⟨first, others⟩ := List.forall_mem_cons.1 oneLine
      rw [List.flatMap_cons, Text.literalCharacter]
      split
      · rename_i special
        exact .escaped (by simpa using special) (ih others)
      · rename_i plain
        exact .plain (by simpa using plain) first (ih others)

theorem isText_escape (content : Text) : IsText (EntityTable.jsx.escape content) := by
  intro character member listed
  simp only [List.mem_cons, List.not_mem_nil, or_false] at listed
  rcases listed with rfl | rfl | rfl | rfl
  all_goals exact EntityTable.not_mem_escape (by decide) (by decide) content member

theorem quote_not_mem_escape (content : Text) : '"' ∉ EntityTable.jsx.escape content :=
  EntityTable.not_mem_escape (by decide) (by decide) content

theorem isNumber_ofNat (index : Nat) : IsNumber (Text.ofNat index) :=
  ⟨Nat.toDigits_ne_nil, fun _ member => Nat.isDigit_of_mem_toDigits (by decide) (by decide) member⟩

theorem isSpace_pad (depth : Nat) : IsSpace (pad depth) := by
  intro character member
  rw [List.eq_of_mem_replicate member]
  exact List.mem_cons_self

theorem isSpace_nil : IsSpace [] :=
  List.forall_mem_nil _

theorem isSpace_lineFeed : IsSpace ['\n'] := by
  simp [IsSpace]

theorem IsSpace.append {first second : Text} (front : IsSpace first) (rest : IsSpace second) :
    IsSpace (first ++ second) :=
  List.forall_mem_append.2 ⟨front, rest⟩

namespace Attribute

/-- An attribute that is printed by the rules. -/
def Printed (property : Attribute) : Prop :=
  property.Derives property.print

theorem printed_key (index : Nat) : (Attribute.key index).Printed :=
  .key (isNumber_ofNat index) Nat.ofDigitChars_ten_toDigits

theorem printed_property {name : String} (listed : name ∈ attributeNames) (content : Text) :
    (Jsx.property name content).Printed :=
  .text listed (quote_not_mem_escape content) (EntityTable.readable_jsx.unescape_escape content)

theorem printed_onClick {setter screen : Text} (named : IsIdentifier setter)
    (oneLine : ∀ character ∈ screen, character ∉ lineTerminators) :
    (Attribute.onClick setter screen).Printed :=
  .onClick named (isLiteral_literal oneLine)

theorem allDerive_print {attributes : List Attribute}
    (printed : ∀ property ∈ attributes, property.Printed) :
    AllDerive attributes (attributes.flatMap print) := by
  induction attributes with
  | nil => exact .nil
  | cons property attributes ih =>
      obtain ⟨first, others⟩ := List.forall_mem_cons.1 printed
      exact .cons first (ih others)

end Attribute

namespace Phrase

variable {tag : String} {attributes : List Attribute} {children : List Phrase}

/-- A phrase that is printed by the rules. -/
def Printed (phrase : Phrase) : Prop :=
  phrase.Derives phrase.print

theorem allDerive_printAll {phrases : List Phrase} (printed : ∀ phrase ∈ phrases, phrase.Printed) :
    AllDerive phrases (printAll phrases) := by
  induction phrases with
  | nil => exact .nil
  | cons phrase phrases ih =>
      obtain ⟨first, others⟩ := List.forall_mem_cons.1 printed
      exact .cons first (ih others)

theorem printed_text (content : Text) : (Phrase.text content).Printed :=
  .text (isText_escape content) (EntityTable.readable_jsx.unescape_escape content)

theorem printed_element (listed : tag ∈ containers)
    (given : ∀ property ∈ attributes, property.Printed)
    (contents : ∀ child ∈ children, child.Printed) :
    (Phrase.element tag.toList attributes children).Printed := by
  have derived := Derives.element listed (Attribute.allDerive_print given)
    (allDerive_printAll contents)
  simpa [Printed, print, openTag, closeTag] using derived

theorem printed_void (listed : tag ∈ voids)
    (given : ∀ property ∈ attributes, property.Printed) :
    (Phrase.void tag.toList attributes).Printed := by
  have derived := Derives.void listed (Attribute.allDerive_print given)
  simpa [Printed, print] using derived

end Phrase

namespace Node

variable {tag : String} {attributes : List Attribute} {children : List Node}

/-- Markup whose lines are printed by the rules, at any depth. -/
def Printed (node : Node) : Prop :=
  ∀ depth, ∃ text, node.Derives text ∧
    Component.printModule (node.print depth) = pad depth ++ text ++ ['\n']

/-- The lines of several pieces of markup, whatever space stands around them. -/
theorem allDerive_printAll {nodes : List Node} (printed : ∀ node ∈ nodes, node.Printed)
    (depth : Nat) {before after : Text} (above : IsSpace before) (below : IsSpace after) :
    AllDerive nodes (before ++ Component.printModule (printAll depth nodes) ++ after) := by
  induction nodes generalizing before with
  | nil =>
      rw [printAll, Component.printModule, List.flatMap_nil, List.append_nil]
      exact .nil (above.append below)
  | cons node nodes ih =>
      obtain ⟨first, others⟩ := List.forall_mem_cons.1 printed
      obtain ⟨text, derived, lines⟩ := first depth
      have rest := ih others isSpace_lineFeed
      have whole := AllDerive.cons (above.append (isSpace_pad depth)) derived rest
      rw [printAll, Component.printModule, List.flatMap_append, ← Component.printModule, lines]
      simpa [Component.printModule] using whole

theorem printed_line {phrase : Phrase} (printed : phrase.Printed) : (Node.line phrase).Printed := by
  intro depth
  exact ⟨phrase.print, .line printed, by simp [print, Component.printModule]⟩

theorem printed_wrap (listed : tag ∈ containers)
    (given : ∀ property ∈ attributes, property.Printed)
    (contents : ∀ child ∈ children, child.Printed) :
    (wrap tag attributes children).Printed := by
  intro depth
  have inside := allDerive_printAll contents (depth + 1) isSpace_lineFeed (isSpace_pad depth)
  refine ⟨_, .element listed (Attribute.allDerive_print given) inside, ?_⟩
  simp [wrap, print, Component.printModule, openTag, closeTag]

theorem printed_guard {state screen : Text} (named : IsIdentifier state)
    (oneLine : ∀ character ∈ screen, character ∉ lineTerminators)
    (shown : (wrap tag attributes children).Printed) :
    (Node.guard state screen (wrap tag attributes children)).Printed := by
  intro depth
  obtain ⟨text, derived, lines⟩ := shown (depth + 1)
  have above := isSpace_lineFeed.append (isSpace_pad (depth + 1))
  have below := isSpace_lineFeed.append (isSpace_pad depth)
  refine ⟨_, .guard named (isLiteral_literal oneLine) above below derived, ?_⟩
  rw [Component.printModule] at lines
  simp [print, Component.printModule, lines]

end Node

end Mockup.Jsx
