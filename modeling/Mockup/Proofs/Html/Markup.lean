import Mockup.Proofs.Entities
import Mockup.Proofs.Html.Preview

/-!
# Previews are well-formed markup

A printed preview falls into texts and tags. The tags are those of a fixed list, they close each
other in order, and neither a text nor an attribute value holds a character that could end it. A
tree of markup is printed token by token, so what remains to be shown of a rendering is that it
draws only on the list.

The style of a grid is safe by itself: it is made of fixed words and digits, which are the same when
they are escaped.
-/

namespace Mockup

namespace Html

/-- The attributes in a tag, with their values as they are printed; some have no value. -/
abbrev Written := List (Text × Option Text)

/-- What printed markup falls into. -/
inductive Token where
  | text (content : Text)
  | opening (tag : Text) (attributes : Written)
  | closing (tag : Text)
  /-- A tag that is closed as soon as it is opened. -/
  | void (tag : Text) (attributes : Written)
  deriving DecidableEq, Repr

namespace Token

/-- The text of an attribute, with a blank in front. -/
def printAttribute : Text × Option Text → Text
  | (name, some value) => ' ' :: name ++ '=' :: '"' :: value ++ ['"']
  | (name, none) => ' ' :: name

/-- The text of a token. -/
def print : Token → Text
  | .text content => content
  | .opening tag attributes => '<' :: tag ++ attributes.flatMap printAttribute ++ ['>']
  | .closing tag => '<' :: '/' :: tag ++ ['>']
  | .void tag attributes => '<' :: tag ++ attributes.flatMap printAttribute ++ [' ', '/', '>']

/-- The tokens close the open tags, the innermost first, and all that they open themselves. -/
def Close : (opened : List Text) → List Token → Prop
  | opened, [] => opened = []
  | opened, .text _ :: rest => Close opened rest
  | opened, .void .. :: rest => Close opened rest
  | opened, .opening tag _ :: rest => Close (tag :: opened) rest
  | [], .closing _ :: _ => False
  | innermost :: opened, .closing tag :: rest => innermost = tag ∧ Close opened rest

end Token

/-- An attribute as it stands in a printed tag. -/
def Attribute.written : Attribute → Text × Option Text
  | .value name content => (name, some (EntityTable.html.escape content))
  | .flag name => (name, none)

namespace Node

mutual

/-- The tokens of a piece of markup. -/
def tokens : Node → List Token
  | .text content => [.text (EntityTable.html.escape content)]
  | .element tag attributes children =>
      .opening tag (attributes.map Attribute.written) :: tokensOf children ++ [.closing tag]
  | .void tag attributes => [.void tag (attributes.map Attribute.written)]

def tokensOf : List Node → List Token
  | [] => []
  | node :: nodes => node.tokens ++ tokensOf nodes

end

end Node

theorem Attribute.print_written (property : Attribute) :
    Token.printAttribute property.written = property.print := by
  cases property <;> rfl

theorem print_written (attributes : List Attribute) :
    (attributes.map Attribute.written).flatMap Token.printAttribute =
      attributes.flatMap Attribute.print := by
  rw [List.flatMap_map]
  congr 1
  funext property
  exact property.print_written

namespace Node

mutual

/-- Printing the tokens one after the other prints the tree. -/
theorem print_tokens (node : Node) : node.tokens.flatMap Token.print = node.print := by
  cases node with
  | text content => simp [tokens, print, Token.print]
  | element tag attributes children =>
      simp [tokens, print, Token.print, print_written, printAll_tokensOf children]
  | void tag attributes => simp [tokens, print, Token.print, print_written]

theorem printAll_tokensOf (nodes : List Node) :
    (tokensOf nodes).flatMap Token.print = printAll nodes := by
  cases nodes with
  | nil => rfl
  | cons node nodes =>
      rw [tokensOf, printAll, List.flatMap_append, print_tokens node, printAll_tokensOf nodes]

end

mutual

/-- A tree closes what it opens, so it leaves the open tags around it as they are. -/
theorem close_tokens (node : Node) (opened : List Text) (rest : List Token) :
    Token.Close opened (node.tokens ++ rest) ↔ Token.Close opened rest := by
  cases node with
  | text content => rfl
  | element tag attributes children =>
      rw [tokens, List.cons_append, List.cons_append, Token.Close, List.append_assoc,
        close_tokensOf children]
      exact and_iff_right rfl
  | void tag attributes => rfl

theorem close_tokensOf (nodes : List Node) (opened : List Text) (rest : List Token) :
    Token.Close opened (tokensOf nodes ++ rest) ↔ Token.Close opened rest := by
  cases nodes with
  | nil => rfl
  | cons node nodes =>
      rw [tokensOf, List.append_assoc, close_tokens node, close_tokensOf nodes]

end

end Node

end Html

open Html (Node Token Attribute classes styled)

namespace Preview

/-- The tags around content that previews are written with, each with its attributes. -/
def containers : List (String × List String) :=
  [("h1", ["class"]), ("h2", ["class"]), ("h3", ["class"]), ("h4", ["class"]), ("h5", ["class"]),
    ("h6", ["class"]), ("p", ["class"]), ("strong", []), ("em", []), ("label", ["class"]),
    ("textarea", ["class", "disabled"]), ("select", ["class", "disabled"]), ("option", []),
    ("button", ["class", "disabled"]), ("span", ["class"]), ("table", ["class"]), ("thead", []),
    ("tbody", []), ("tr", []), ("th", ["class"]), ("td", ["class"]), ("div", ["class"]),
    ("div", ["class", "style"]), ("div", ["class", "data-screen-id"]),
    ("div", ["class", "data-initial-screen"])]

/-- The tags without content that previews are written with, each with its attributes. -/
def voids : List (String × List String) :=
  [("input", ["type", "class", "placeholder", "disabled"]),
    ("input", ["type", "class", "disabled"]), ("input", ["type", "class", "name", "disabled"]),
    ("img", ["class", "src", "alt"])]

/-- The entities that previews are written with. -/
def entities : List Text :=
  ["&amp;".toList, "&lt;".toList, "&gt;".toList, "&quot;".toList, "&#x27;".toList]

/-- A printed text that neither opens nor closes a tag, with ampersands in entities only. -/
def Clean (text : Text) : Prop :=
  '<' ∉ text ∧ '>' ∉ text ∧ EntityTable.Encoded entities text

/-- A tag with its attributes is one of the list, and no attribute value ends early. -/
def Follows (templates : List (String × List String)) (tag : Text)
    (attributes : Html.Written) : Prop :=
  (∃ template ∈ templates,
      tag = template.1.toList ∧ attributes.map Prod.fst = template.2.map String.toList) ∧
    ∀ property ∈ attributes, ∀ value ∈ property.2, '"' ∉ value ∧ Clean value

/-- A token that the templates of a preview allow for. -/
def Safe : Token → Prop
  | .text content => Clean content
  | .opening tag attributes => Follows containers tag attributes
  | .closing tag => ∃ template ∈ containers, tag = template.1.toList
  | .void tag attributes => Follows voids tag attributes

/-- A tree that is printed with the templates of a preview only. -/
def Drawn (node : Node) : Prop :=
  ∀ token ∈ node.tokens, Safe token

def AllDrawn (nodes : List Node) : Prop :=
  ∀ node ∈ nodes, Drawn node

/-- Whatever a text holds, it is clean once it is escaped. -/
theorem clean_escape (text : Text) : Clean (EntityTable.html.escape text) := by
  refine ⟨?_, ?_, ?_⟩
  · exact EntityTable.not_mem_escape (by decide) (by decide) text
  · exact EntityTable.not_mem_escape (by decide) (by decide) text
  · exact EntityTable.Encoded.escape EntityTable.readable_html (by decide) text

theorem quote_not_mem_escape (text : Text) : '"' ∉ EntityTable.html.escape text :=
  EntityTable.not_mem_escape (by decide) (by decide) text

/-- The tag stands in the list with just these attributes. -/
def isListed (templates : List (String × List String)) (tag : String)
    (attributes : List Attribute) : Bool :=
  templates.any fun template =>
    template.1 = tag && template.2.map String.toList = attributes.map (Prod.fst ∘ Attribute.written)

theorem follows_of_isListed {templates : List (String × List String)} {tag : String}
    {attributes : List Attribute} (listed : isListed templates tag attributes = true) :
    Follows templates tag.toList (attributes.map Attribute.written) := by
  constructor
  · obtain ⟨template, member, matching⟩ := List.any_eq_true.1 listed
    simp only [Bool.and_eq_true, decide_eq_true_eq] at matching
    obtain ⟨rfl, named⟩ := matching
    exact ⟨template, member, rfl, by rw [List.map_map, named]⟩
  · intro property member value given
    obtain ⟨original, -, rfl⟩ := List.mem_map.1 member
    cases original with
    | flag name => cases given
    | value name content =>
        cases given
        exact ⟨quote_not_mem_escape content, clean_escape content⟩

namespace AllDrawn

variable {node : Node} {nodes : List Node}

theorem nil : AllDrawn [] :=
  List.forall_mem_nil _

theorem cons (first : Drawn node) (others : AllDrawn nodes) : AllDrawn (node :: nodes) :=
  List.forall_mem_cons.2 ⟨first, others⟩

theorem one (drawn : Drawn node) : AllDrawn [node] :=
  cons drawn nil

theorem append {more : List Node} (front : AllDrawn nodes) (rest : AllDrawn more) :
    AllDrawn (nodes ++ more) :=
  List.forall_mem_append.2 ⟨front, rest⟩

theorem map {α : Type} {make : α → Node} (drawn : ∀ value, Drawn (make value)) (values : List α) :
    AllDrawn (values.map make) :=
  List.forall_mem_map.2 fun value _ => drawn value

theorem tokensOf (drawn : AllDrawn nodes) : ∀ token ∈ Node.tokensOf nodes, Safe token := by
  induction nodes with
  | nil => exact List.forall_mem_nil _
  | cons node nodes ih =>
      obtain ⟨first, others⟩ := List.forall_mem_cons.1 drawn
      rw [Node.tokensOf]
      exact List.forall_mem_append.2 ⟨first, ih others⟩

end AllDrawn

namespace Drawn

variable {tag : String} {attributes : List Attribute} {children : List Node}

theorem text (content : Text) : Drawn (.text content) :=
  List.forall_mem_singleton.2 (clean_escape content)

/-- An element of the list. Which one it is comes out by evaluation. -/
theorem element (listed : isListed containers tag attributes = true)
    (drawn : AllDrawn children) : Drawn (.element tag.toList attributes children) := by
  have follows := follows_of_isListed listed
  obtain ⟨template, known, spelled, -⟩ := follows.1
  rw [Drawn, Node.tokens, List.cons_append, List.forall_mem_cons, List.forall_mem_append]
  exact ⟨follows, drawn.tokensOf, List.forall_mem_singleton.2 ⟨template, known, spelled⟩⟩

/-- An element around nothing but a text. -/
theorem around (listed : isListed containers tag attributes = true) (content : Text) :
    Drawn (.element tag.toList attributes [.text content]) :=
  element listed (.one (text content))

theorem void (listed : isListed voids tag attributes = true) :
    Drawn (.void tag.toList attributes) :=
  List.forall_mem_singleton.2 (follows_of_isListed listed)

end Drawn

/-- The line feeds between pieces of markup are texts. -/
theorem AllDrawn.lines {nodes : List Node} (drawn : AllDrawn nodes) :
    AllDrawn (Node.lines nodes) := by
  induction nodes with
  | nil => exact drawn
  | cons node nodes ih =>
      cases nodes with
      | nil => exact drawn
      | cons next nodes =>
          obtain ⟨first, others⟩ := List.forall_mem_cons.1 drawn
          exact cons first (cons (.text _) (ih others))

/-! ## What renderings draw -/

namespace Drawn

theorem emphasized (content : Text) : Drawn (Inline.emphasized content) :=
  around rfl content

theorem inline (node : Inline) : Drawn node.toHtml := by
  cases node with
  | text content => exact text content
  | italic content => exact emphasized content
  | bold content italics =>
      rcases italics with - | (- | ⟨first, more⟩)
      · exact around rfl _
      · exact around rfl _
      · exact element rfl (.map emphasized (first :: more))

theorem label (className : String) (content : Text) : Drawn (Html.label className content) :=
  around rfl content

theorem button (button : Button) : Drawn button.toHtml := by
  apply element rfl
  apply AllDrawn.cons (text _)
  rcases button.navigateTo with - | (- | ⟨first, more⟩)
  · exact .nil
  · exact .nil
  · exact .cons (text _) (.one (around rfl _))

/-- A field with its label in front. -/
theorem field {node : Node} (content : Text) (drawn : Drawn node) :
    Drawn (Html.styled "div" "proto-field" [Html.label "proto-label" content, node]) :=
  element rfl (.cons (label _ content) (.one drawn))

theorem control (control : Control) : Drawn control.toHtml := by
  cases control with
  | input content kind => exact field content (void rfl)
  | textarea content => exact field content (element rfl .nil)
  | dropdown content options =>
      apply field content
      apply element rfl
      exact .map (around rfl) (Control.shownOptions options)
  | checkbox content =>
      apply element rfl
      exact .cons (void rfl) (.one (label _ content))
  | button inner => exact button inner

theorem radioOption (name option : Text) : Drawn (Html.radioOption name option) := by
  apply element rfl
  exact .cons (void rfl) (.one (label _ option))

/-- There is a tag for each level of headings. -/
theorem heading : ∀ number ≤ 6, 1 ≤ number →
    ∃ template ∈ containers, 'h' :: Text.ofNat number = template.1.toList ∧
      isListed containers template.1 [classes []] = true := by
  decide

theorem item (item : Item) : Drawn item.toHtml := by
  cases item with
  | header level children =>
      obtain ⟨template, -, spelled, listed⟩ := heading _ level.atMostSix level.positive
      rw [Item.toHtml, spelled]
      exact element listed (.map inline children)
  | text children => exact element rfl (.map inline children)
  | control inner => exact control inner
  | radioGroup content first more =>
      apply element rfl
      apply AllDrawn.cons (label _ content)
      exact .one (element rfl (.map (radioOption content) (first :: more)))
  | image alt src => exact void rfl
  | row controls => exact element rfl (AllDrawn.map control controls).lines

theorem row {tag className : String}
    (listed : isListed containers tag [classes className.toList] = true) (cells : List Text) :
    Drawn (.element "tr".toList []
      (cells.map fun cell => Html.styled tag className [.text cell])) :=
  element rfl (.map (around listed) cells)

theorem table (table : Table) : Drawn table.toHtml := by
  apply element rfl
  apply AllDrawn.cons (element rfl (.one (row rfl table.headers)))
  exact .one (element rfl (.map (row rfl) table.rows))

theorem cardHeader (title : Option (List Inline)) : AllDrawn (Html.cardHeader title) := by
  rcases title with - | (- | ⟨first, more⟩)
  · exact .nil
  · exact .nil
  · exact .one (element rfl (.map inline (first :: more)))

theorem box {contents : List Node} (drawn : AllDrawn contents) (style : Text) (box : Box) :
    Drawn (box.toHtml style contents) := by
  cases box with
  | card title =>
      apply element rfl
      exact (cardHeader title).append (.one (element rfl drawn))
  | grid config => exact element rfl drawn
  | div className => exact element rfl drawn

theorem screen {contents : List Node} (drawn : AllDrawn contents) (initial : Bool) (id : Text) :
    Drawn (Html.screen initial id contents) := by
  have badge : AllDrawn
      (if initial then [Html.styled "span" "proto-screen-initial" [.text "Initial".toList]]
        else []) := by
    cases initial with
    | false => exact .nil
    | true => exact .one (around rfl _)
  have name : Drawn (Html.styled "span" "proto-screen-badge" [.text id]) := around rfl id
  apply element rfl
  exact .cons (element rfl (.cons name badge)) (.one (element rfl drawn))

end Drawn

/-- A rendering fails or has a result with the property. -/
def Yields {α : Type} (property : α → Prop) : Except PreviewError α → Prop
  | .ok value => property value
  | .error _ => True

theorem Yields.bind {α β : Type} {first : Except PreviewError α}
    {next : α → Except PreviewError β} {before : α → Prop} {after : β → Prop}
    (yields : Yields before first) (follows : ∀ value, before value → Yields after (next value)) :
    Yields after (first >>= next) := by
  cases first with
  | error error => trivial
  | ok value => exact follows value yields

namespace Drawn

mutual

theorem toHtml (block : Block) : Yields Drawn block.toHtml := by
  cases block with
  | item inner => exact item inner
  | table inner => exact table inner
  | box outer children =>
      rw [Block.toHtml]
      have styled : Yields (fun _ => True) outer.style := by
        cases outer.style <;> trivial
      exact styled.bind fun style _ =>
        (listToHtml children).bind fun contents drawn => box drawn.lines style outer
  | screen inner => exact screen_toHtml none inner
  | workflow initial screens =>
      rw [Block.toHtml]
      exact (screen_listToHtml initial screens).bind fun contents drawn =>
        element rfl drawn

theorem listToHtml (blocks : List Block) : Yields AllDrawn (Block.listToHtml blocks) := by
  cases blocks with
  | nil => exact AllDrawn.nil
  | cons block blocks =>
      rw [Block.listToHtml]
      exact (toHtml block).bind fun node first =>
        (listToHtml blocks).bind fun nodes others => AllDrawn.cons first others

theorem screen_toHtml (initial : Option Text) (inner : Screen) :
    Yields Drawn (inner.toHtml initial) := by
  cases inner with
  | mk id children =>
      rw [Screen.toHtml]
      exact (listToHtml children).bind fun contents drawn => screen drawn.lines _ id

theorem screen_listToHtml (initial : Text) (screens : List Screen) :
    Yields AllDrawn (Screen.listToHtml initial screens) := by
  cases screens with
  | nil => exact AllDrawn.nil
  | cons inner screens =>
      rw [Screen.listToHtml]
      exact (screen_toHtml (some initial) inner).bind fun node first =>
        (screen_listToHtml initial screens).bind fun nodes others => AllDrawn.cons first others

end

end Drawn

end Preview

/-- What is made of a result is there only if the result is. -/
theorem exists_of_map_eq_ok {ε α β : Type} {result : Except ε α} {make : α → β} {value : β}
    (made : result.map make = .ok value) :
    ∃ original, result = .ok original ∧ make original = value := by
  cases result with
  | error error => cases made
  | ok original =>
      cases made
      exact ⟨original, rfl, rfl⟩

namespace Grid

open EntityTable (Plain)

/-- A number that is chosen for a key consists of digits. -/
theorem plain_digits? {key number : Text} {directives : Directives}
    (chosen : digits? key directives = some number) : EntityTable.html.Plain number := by
  have digits := (Option.filter_eq_some_iff.1 chosen).2
  simp only [ne_eq, List.all_eq_true, decide_eq_true_eq] at digits
  exact EntityTable.plain_of_all (by decide) digits.2

theorem plain_ofNat (number : Nat) : EntityTable.html.Plain (Text.ofNat number) := by
  have digits : ∀ character ∈ Text.ofNat number, character.isDigit = true :=
    fun _ member => Nat.isDigit_of_mem_toDigits (by decide) (by decide) member
  exact EntityTable.plain_of_all (by decide) digits

theorem plain_ofInt (number : Int) : EntityTable.html.Plain (Text.ofInt number) := by
  cases number with
  | ofNat number => exact plain_ofNat number
  | negSucc number => exact List.forall_mem_cons.2 ⟨by decide, plain_ofNat (number + 1)⟩

theorem plain_pixels {digits written : Text} (computed : pixels digits = .ok written) :
    EntityTable.html.Plain written := by
  rw [pixels] at computed
  split at computed
  · cases computed
  · rw [Text.writeNumber] at computed
    split at computed
    · cases computed
    · cases computed
      exact plain_ofInt _

theorem plain_columnsClause (directives : Directives) :
    ∀ clause ∈ columnsClause directives, EntityTable.html.Plain clause := by
  rw [columnsClause]
  split
  · rename_i number chosen
    have plain := plain_digits? chosen
    exact List.forall_mem_singleton.2 ((Plain.append (by decide) plain).append (by decide))
  · exact List.forall_mem_nil _

theorem plain_gapClause {directives : Directives} {clauses : List Text}
    (computed : gapClause directives = .ok clauses) :
    ∀ clause ∈ clauses, EntityTable.html.Plain clause := by
  rw [gapClause] at computed
  split at computed
  · rename_i number chosen
    obtain ⟨pixels, written, rfl⟩ := exists_of_map_eq_ok computed
    have plain := plain_pixels written
    exact List.forall_mem_singleton.2 ((Plain.append (by decide) plain).append (by decide))
  · cases computed
    exact List.forall_mem_nil _

/-- There is nothing to escape in the style of a grid, whatever its configuration is. -/
theorem plain_style {config style : Text} (computed : Grid.style config = .ok style) :
    EntityTable.html.Plain style := by
  rw [Grid.style] at computed
  split at computed
  · cases computed
    exact List.forall_mem_nil _
  · rename_i directives read
    obtain ⟨clauses, gap, rfl⟩ := exists_of_map_eq_ok computed
    apply Plain.joined (by decide)
    exact List.forall_mem_append.2 ⟨plain_columnsClause directives, plain_gapClause gap⟩

end Grid

namespace Preview

/-- A preview falls into clean texts and tags of the templates that close each other in order, and
the style of each of its grids can be printed without being escaped. -/
theorem ofBlocks_tokens {blocks : List Block} {output : Text}
    (rendered : Preview.ofBlocks blocks = .ok output) :
    (∃ tokens : List Token, output = tokens.flatMap Token.print ∧ Token.Close [] tokens ∧
        ∀ token ∈ tokens, Safe token) ∧
      ∀ config ∈ Block.gridConfigsOf blocks, ∃ style,
        Grid.style config = .ok style ∧ EntityTable.html.escape style = style := by
  constructor
  · obtain ⟨nodes, drawn, rfl⟩ := exists_of_map_eq_ok rendered
    have yields := Drawn.listToHtml blocks
    rw [drawn] at yields
    refine ⟨Node.tokensOf (Node.lines nodes), ?_, ?_, ?_⟩
    · exact (Node.printAll_tokensOf _).symm
    · rw [← List.append_nil (Node.tokensOf _), Node.close_tokensOf]
      rfl
    · exact (AllDrawn.lines yields).tokensOf
  · have answers := Answers.ofBlocks blocks
    rw [rendered] at answers
    intro config member
    obtain ⟨style, computed⟩ := answers config member
    exact ⟨style, computed, EntityTable.escape_of_plain (Grid.plain_style computed)⟩

/-- A grid and an image with texts that try to break out of their tags. -/
def breakout : List Block :=
  [.box (.grid "cols-2 \"><b>".toList) [.item (.image "\"><b>".toList "a&b".toList)]]

theorem ofBlocks_tokens_breakout :
    ∃ output : Text,
      Preview.ofBlocks breakout = .ok output ∧
        (∃ tokens : List Token, output = tokens.flatMap Token.print ∧ Token.Close [] tokens ∧
          ∀ token ∈ tokens, Safe token) ∧
        ∀ config ∈ Block.gridConfigsOf breakout, ∃ style,
          Grid.style config = .ok style ∧ EntityTable.html.escape style = style := by
  have answer : ∃ output, Preview.ofBlocks breakout = .ok output := ⟨_, rfl⟩
  obtain ⟨output, rendered⟩ := answer
  exact ⟨output, rendered, ofBlocks_tokens rendered⟩

end Preview

end Mockup
