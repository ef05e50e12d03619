import Mathlib.Data.List.Nodup
import Mockup.Proofs.Jsx.States
import Mockup.Proofs.Jsx.Wires
import Mockup.Proofs.Text

/-!
# How workflows are wired

A component numbers its workflows while it builds the markup, by counting those it has passed. What
the numbers stand for is said here without counting: a workflow is known by the place where it
stands, the workflows of a document are listed by walking over all of its blocks, and the number of
a workflow is its index in that list. With the names for these numbers the wires of the markup are
those that the joints of the document ask for.
-/

namespace Mockup

open Jsx (Attribute Node)

mutual

/-- A block that stands at a place, and everything in it, in document order. -/
def Block.walk (place : Place) : Block → List (Place × Block)
  | .item inner => [(place, .item inner)]
  | .table inner => [(place, .table inner)]
  | .box outer children => (place, .box outer children) :: Block.walkOf place 0 children
  | .screen inner => inner.walk place
  | .workflow initial screens =>
    (place, .workflow initial screens) :: Screen.walkOf place 0 screens

/-- Blocks that stand at a place, the first of them at the given position. -/
def Block.walkOf (place : Place) (index : Nat) : List Block → List (Place × Block)
  | [] => []
  | block :: blocks => block.walk (index :: place) ++ Block.walkOf place (index + 1) blocks

def Screen.walk (place : Place) : Screen → List (Place × Block)
  | ⟨id, children⟩ => (place, .screen ⟨id, children⟩) :: Block.walkOf place 0 children

def Screen.walkOf (place : Place) (index : Nat) : List Screen → List (Place × Block)
  | [] => []
  | screen :: screens => screen.walk (index :: place) ++ Screen.walkOf place (index + 1) screens

end

/-- The screen that a block starts on, if it is a workflow. -/
def Block.initial? : Block → Option Text
  | .workflow initial _ => some initial
  | .item _ | .table _ | .box .. | .screen _ => none

/-- The workflows among blocks, each with its place and the screen it starts on. -/
def workflowsAmong (blocks : List (Place × Block)) : List (Place × Text) :=
  blocks.filterMap fun (place, block) => block.initial?.map fun initial => (place, initial)

/-- The workflows of a document, in document order. -/
def Component.workflows (blocks : List Block) : List (Place × Text) :=
  workflowsAmong (Block.walkOf [] 0 blocks)

@[simp] theorem workflowsAmong_append (front rest : List (Place × Block)) :
    workflowsAmong (front ++ rest) = workflowsAmong front ++ workflowsAmong rest :=
  List.filterMap_append

mutual

/-- Walking over a block meets the workflows in the order in which their states are counted. -/
theorem Block.initials_walk (place : Place) (block : Block) :
    (workflowsAmong (block.walk place)).map Prod.snd = block.initialScreens := by
  cases block with
  | item | table => rfl
  | box outer children => exact Block.initials_walkOf place 0 children
  | screen inner => exact inner.initials_walk place
  | workflow initial screens =>
      exact congrArg (List.cons initial) (Screen.initials_walkOf place 0 screens)

theorem Block.initials_walkOf (place : Place) (index : Nat) (blocks : List Block) :
    (workflowsAmong (Block.walkOf place index blocks)).map Prod.snd =
      Block.initialScreensOf blocks := by
  cases blocks with
  | nil => rfl
  | cons block blocks =>
      rw [Block.walkOf, workflowsAmong_append, List.map_append, block.initials_walk,
        Block.initials_walkOf place (index + 1) blocks, Block.initialScreensOf]

theorem Screen.initials_walk (place : Place) (screen : Screen) :
    (workflowsAmong (screen.walk place)).map Prod.snd = screen.initialScreens := by
  cases screen with
  | mk id children => exact Block.initials_walkOf place 0 children

theorem Screen.initials_walkOf (place : Place) (index : Nat) (screens : List Screen) :
    (workflowsAmong (Screen.walkOf place index screens)).map Prod.snd =
      Screen.initialScreensOf screens := by
  cases screens with
  | nil => rfl
  | cons screen screens =>
      rw [Screen.walkOf, workflowsAmong_append, List.map_append, screen.initials_walk,
        Screen.initials_walkOf place (index + 1) screens, Screen.initialScreensOf]

end

/-- Different places, all of them at `place` or further inside. -/
structure Inside (place : Place) (places : List Place) : Prop where
  nodup : places.Nodup
  suffix : ∀ other ∈ places, place <:+ other

/-- Different places, all of them inside of `place` from the given position on. -/
structure InsideFrom (place : Place) (index : Nat) (places : List Place) : Prop where
  nodup : places.Nodup
  suffix : ∀ other ∈ places, ∃ position, index ≤ position ∧ position :: place <:+ other

theorem Inside.singleton (place : Place) : Inside place [place] :=
  ⟨by simp, by simp⟩

theorem InsideFrom.nil (place : Place) (index : Nat) : InsideFrom place index [] :=
  ⟨List.nodup_nil, by simp⟩

/-- A place and those inside of it. -/
theorem InsideFrom.cons {place : Place} {index : Nat} {places : List Place}
    (inside : InsideFrom place index places) : Inside place (place :: places) := by
  refine ⟨List.nodup_cons.2 ⟨?_, inside.nodup⟩, ?_⟩
  · intro member
    obtain ⟨position, -, suffix⟩ := inside.suffix place member
    have longer := suffix.length_le
    rw [List.length_cons] at longer
    omega
  · intro other member
    rcases List.mem_cons.1 member with rfl | member
    · exact List.suffix_refl _
    · obtain ⟨position, -, suffix⟩ := inside.suffix other member
      exact (List.suffix_cons position place).trans suffix

/-- Places of neighbours are different, because their positions are. -/
theorem InsideFrom.append {place : Place} {index : Nat} {here later : List Place}
    (first : Inside (index :: place) here) (others : InsideFrom place (index + 1) later) :
    InsideFrom place index (here ++ later) := by
  constructor
  · refine List.nodup_append.2 ⟨first.nodup, others.nodup, ?_⟩
    rintro other member _ member' rfl
    obtain ⟨position, bound, suffix⟩ := others.suffix other member'
    have same : position :: place = index :: place :=
      (List.suffix_of_suffix_length_le suffix (first.suffix other member) (by simp)).eq_of_length
        (by simp)
    injection same with equal
    omega
  · intro other member
    rcases List.mem_append.1 member with member | member
    · exact ⟨index, Nat.le_refl index, first.suffix other member⟩
    · obtain ⟨position, bound, suffix⟩ := others.suffix other member
      exact ⟨position, by omega, suffix⟩

mutual

/-- No two blocks stand at the same place. -/
theorem Block.inside_walk (place : Place) (block : Block) :
    Inside place ((block.walk place).map Prod.fst) := by
  cases block with
  | item | table => exact .singleton place
  | box outer children => exact (Block.insideFrom_walkOf place 0 children).cons
  | screen inner => exact inner.inside_walk place
  | workflow initial screens => exact (Screen.insideFrom_walkOf place 0 screens).cons

theorem Block.insideFrom_walkOf (place : Place) (index : Nat) (blocks : List Block) :
    InsideFrom place index ((Block.walkOf place index blocks).map Prod.fst) := by
  cases blocks with
  | nil => exact .nil place index
  | cons block blocks =>
      rw [Block.walkOf, List.map_append]
      exact .append (block.inside_walk (index :: place))
        (Block.insideFrom_walkOf place (index + 1) blocks)

theorem Screen.inside_walk (place : Place) (screen : Screen) :
    Inside place ((screen.walk place).map Prod.fst) := by
  cases screen with
  | mk id children => exact (Block.insideFrom_walkOf place 0 children).cons

theorem Screen.insideFrom_walkOf (place : Place) (index : Nat) (screens : List Screen) :
    InsideFrom place index ((Screen.walkOf place index screens).map Prod.fst) := by
  cases screens with
  | nil => exact .nil place index
  | cons screen screens =>
      rw [Screen.walkOf, List.map_append]
      exact .append (screen.inside_walk (index :: place))
        (Screen.insideFrom_walkOf place (index + 1) screens)

end

/-- The places of the workflows among blocks. -/
def workflowPlaces (blocks : List (Place × Block)) : List Place :=
  (workflowsAmong blocks).map Prod.fst

theorem workflowPlaces_sublist (blocks : List (Place × Block)) :
    (workflowPlaces blocks).Sublist (blocks.map Prod.fst) := by
  induction blocks with
  | nil => exact List.Sublist.slnil
  | cons placed blocks ih =>
      obtain ⟨place, block⟩ := placed
      cases block with
      | workflow initial screens => exact ih.cons_cons place
      | item | table | box | screen => exact ih.cons place

theorem workflowPlaces_append (front rest : List (Place × Block)) :
    workflowPlaces (front ++ rest) = workflowPlaces front ++ workflowPlaces rest := by
  simp [workflowPlaces]

theorem length_workflowPlaces_walk (place : Place) (block : Block) :
    (workflowPlaces (block.walk place)).length = block.initialScreens.length := by
  rw [← block.initials_walk place, workflowPlaces, List.length_map, List.length_map]

theorem length_workflowPlaces_screen_walk (place : Place) (screen : Screen) :
    (workflowPlaces (screen.walk place)).length = screen.initialScreens.length := by
  rw [← screen.initials_walk place, workflowPlaces, List.length_map, List.length_map]

/-- The places of some workflows follow each other among all of them, and `workflow` others come
before. -/
def Numbered (places : List Place) (workflow : Nat) (some : List Place) : Prop :=
  ∃ front rest, places = front ++ some ++ rest ∧ front.length = workflow

namespace Numbered

variable {places here later : List Place} {workflow : Nat} {place : Place}

theorem left (numbered : Numbered places workflow (here ++ later)) :
    Numbered places workflow here := by
  obtain ⟨front, rest, rfl, counted⟩ := numbered
  exact ⟨front, later ++ rest, by simp, counted⟩

theorem right (numbered : Numbered places workflow (here ++ later)) :
    Numbered places (workflow + here.length) later := by
  obtain ⟨front, rest, rfl, rfl⟩ := numbered
  exact ⟨front ++ here, rest, by simp, by simp⟩

theorem tail (numbered : Numbered places workflow (place :: later)) :
    Numbered places (workflow + 1) later := by
  rw [← List.singleton_append] at numbered
  exact numbered.right

/-- The number of a workflow is the index of its place. -/
theorem idxOf_eq (numbered : Numbered places workflow (place :: later)) (nodup : places.Nodup) :
    places.idxOf place = workflow := by
  obtain ⟨front, rest, rfl, rfl⟩ := numbered
  have before : place ∉ front := by
    intro member
    rw [List.append_assoc] at nodup
    exact (List.nodup_append.1 nodup).2.2 place member place (by simp) rfl
  simp [List.idxOf_append, before]

end Numbered

/-! ## Blocks -/

/-- The names for the workflow at a place: those for its index among all of them. -/
def namesAt (places : List Place) (place : Place) : StateNames :=
  StateNames.ofIndex (places.idxOf place)

section Blocks

variable {places : List Place} {first : Option StateNames}

mutual

/-- The text of a block does for it what is to be done. -/
theorem Block.wires_toJsx {workflow index depth : Nat} (nodup : places.Nodup)
    (callable : ∀ around, Callable (setterFor (namesAt places) first around)) (block : Block)
    (around : Option Place) (place : Place)
    (numbered : Numbered places workflow (workflowPlaces (block.walk place))) :
    (block.toJsx (setterFor (namesAt places) first around) workflow index).wires depth =
      Joint.wiresOf (namesAt places) first (block.joints around place) := by
  cases block with
  | item inner => exact inner.wires_toJsx (callable around)
  | table inner => exact inner.wires_toJsx
  | box outer children =>
      rw [Block.toJsx, Box.wires_toJsx]
      exact Block.wiresOf_listToJsx nodup callable children around place 0 numbered
  | screen inner =>
      rw [Block.toJsx, inner.wires_toJsx nodup callable around place (by simp) numbered]
      simp [Block.joints, Joint.wiresOf, Joint.wires]
  | workflow initial screens =>
      have own : StateNames.ofIndex workflow = namesAt places place := by
        rw [namesAt, numbered.idxOf_eq nodup]
      rw [Block.toJsx, own, Jsx.wires_wrap (by decide)]
      exact Screen.wiresOf_listToJsx nodup callable screens place 0 numbered.tail

theorem Block.wiresOf_listToJsx {workflow index depth : Nat} (nodup : places.Nodup)
    (callable : ∀ around, Callable (setterFor (namesAt places) first around))
    (blocks : List Block) (around : Option Place) (place : Place) (position : Nat)
    (numbered : Numbered places workflow (workflowPlaces (Block.walkOf place position blocks))) :
    Node.wiresOf depth
        (Block.listToJsx (setterFor (namesAt places) first around) workflow index blocks) =
      Joint.wiresOf (namesAt places) first (Block.jointsOf around place position blocks) := by
  cases blocks with
  | nil => rfl
  | cons block blocks =>
      rw [Block.walkOf, workflowPlaces_append] at numbered
      have behind := numbered.right
      rw [length_workflowPlaces_walk] at behind
      rw [Block.listToJsx, Jsx.Node.wiresOf_cons, Block.jointsOf, Joint.wiresOf_append,
        Block.wires_toJsx nodup callable block around (position :: place) numbered.left,
        Block.wiresOf_listToJsx nodup callable blocks around place (position + 1) behind]

theorem Screen.wires_toJsx {workflow depth : Nat} {attributes : List Attribute}
    (nodup : places.Nodup)
    (callable : ∀ around, Callable (setterFor (namesAt places) first around)) (screen : Screen)
    (around : Option Place) (place : Place) (unwired : attributes.flatMap Attribute.wires = [])
    (numbered : Numbered places workflow (workflowPlaces (screen.walk place))) :
    (screen.toJsx (setterFor (namesAt places) first around) workflow attributes).wires depth =
      .screen screen.id ::
        Joint.wiresOf (namesAt places) first (screen.joints around place) := by
  cases screen with
  | mk id children =>
      have inside : Node.wiresOf (depth + 1) (Block.listToJsx _ workflow 0 children) = _ :=
        Block.wiresOf_listToJsx nodup callable children around place 0 numbered
      rw [Screen.toJsx, Jsx.wires_wrap (by decide), List.flatMap_append, unwired, inside]
      simp [Jsx.wires_screenId, Screen.joints]

/-- The screens of a workflow are shown by its own state. -/
theorem Screen.wiresOf_listToJsx {workflow depth : Nat} (nodup : places.Nodup)
    (callable : ∀ around, Callable (setterFor (namesAt places) first around))
    (screens : List Screen) (place : Place) (position : Nat)
    (numbered : Numbered places workflow (workflowPlaces (Screen.walkOf place position screens))) :
    Node.wiresOf depth (Screen.listToJsx (namesAt places place) workflow screens) =
      Joint.wiresOf (namesAt places) first (Screen.jointsOf place position screens) := by
  cases screens with
  | nil => rfl
  | cons screen screens =>
      rw [Screen.walkOf, workflowPlaces_append] at numbered
      have behind := numbered.right
      rw [length_workflowPlaces_screen_walk] at behind
      have inside : (screen.toJsx (some (namesAt places place).setter) workflow []).wires
          (depth + 1) = _ :=
        Screen.wires_toJsx nodup callable screen (some place) (position :: place) rfl numbered.left
      have value : Jsx.IsIdentifier (namesAt places place).value :=
        (StateNames.isIdentifier_ofIndex _).1
      have others : Node.wiresOf depth (Screen.listToJsx (namesAt places place) _ screens) = _ :=
        Screen.wiresOf_listToJsx nodup callable screens place (position + 1) behind
      cases screen with
      | mk id children =>
          rw [Screen.initialScreens] at others
          rw [Screen.listToJsx, Jsx.Node.wiresOf_cons, Jsx.Node.wires_guard value, inside, others]
          simp [Screen.jointsOf, Joint.wiresOf, Joint.wires]

end

end Blocks

namespace StateNames

theorem numbered_injective {front : Text} :
    Function.Injective fun index => front ++ if index = 0 then [] else Text.ofNat (index + 1) := by
  intro left right same
  have written := List.append_cancel_left same
  by_cases leftFirst : left = 0 <;> by_cases rightFirst : right = 0
  · rw [leftFirst, rightFirst]
  · rw [if_pos leftFirst, if_neg rightFirst] at written
    exact absurd written.symm Nat.toDigits_ne_nil
  · rw [if_neg leftFirst, if_pos rightFirst] at written
    exact absurd written Nat.toDigits_ne_nil
  · rw [if_neg leftFirst, if_neg rightFirst] at written
    exact Nat.succ_injective (Text.ofNat_injective written)

theorem value_ne_setter (left right : Nat) : (ofIndex left).value ≠ (ofIndex right).setter := by
  intro same
  have heads : some 'c' = some 's' := congrArg List.head? same
  exact absurd heads (by decide)

/-- No two of the names for workflows are the same. -/
theorem nodup_names (count : Nat) :
    ((List.range count).map (fun index => (ofIndex index).value) ++
      (List.range count).map fun index => (ofIndex index).setter).Nodup := by
  refine List.nodup_append.2 ⟨?_, ?_, ?_⟩
  · exact List.nodup_range.map numbered_injective
  · exact List.nodup_range.map numbered_injective
  · intro value valueMember setter setterMember
    obtain ⟨left, -, rfl⟩ := List.mem_map.1 valueMember
    obtain ⟨right, -, rfl⟩ := List.mem_map.1 setterMember
    exact value_ne_setter left right

end StateNames

/-- The names of states and setters that a wire uses. -/
def Wire.names : Wire → List Text
  | .click setter _ => [setter]
  | .guard state _ => [state]
  | .button | .label _ | .screen _ | .unguard | .other _ => []

/-- The names belong to states that are declared. -/
def NamesOf (states : List StateNames) (names : List Text) : Prop :=
  ∀ name ∈ names, ∃ state ∈ states, name = state.value ∨ name = state.setter

theorem NamesOf.append {states : List StateNames} {front rest : List Text}
    (first : NamesOf states front) (others : NamesOf states rest) :
    NamesOf states (front ++ rest) :=
  List.forall_mem_append.2 ⟨first, others⟩

namespace Jsx

variable {states : List StateNames} {named : Text → Prop}

/-- The names of states and setters in a sign. -/
def Sign.names (sign : Sign) : List Text :=
  sign.wires.flatMap Wire.names

@[simp] theorem Sign.names_opening (tag : Text) : (Sign.opening tag).names = [] := by
  rw [Sign.names, Sign.wires]
  split <;> rfl

@[simp] theorem Sign.names_closing (before tag : Text) : (Sign.closing before tag).names = [] := by
  rw [Sign.names, Sign.wires]
  split <;> rfl

@[simp] theorem Sign.names_attribute (name value : Text) :
    (Sign.attribute name value).names = [] := by
  rw [Sign.names, Sign.wires]
  split <;> rfl

theorem Sign.names_guard {state : Text} (word : IsIdentifier state) (screen : Text)
    (depth : Nat) :
    (Sign.code none (Node.guardCode state screen ++ pad depth)).names = [state] := by
  rw [Sign.names, Sign.wires, Wire.ofCode_guard word]
  rfl

theorem Sign.names_guardEnd (depth : Nat) :
    (Sign.code none ('\n' :: pad depth ++ [')'])).names = [] := by
  rw [Sign.names, Sign.wires, Wire.ofCode_guardEnd]
  rfl

/-- The tags of an element name no states. -/
theorem namesOf_element {tag before : Text} {attributes : List Attribute} {inside : List Sign}
    (given : NamesOf states ((attributes.map Attribute.sign).flatMap Sign.names))
    (contents : NamesOf states (inside.flatMap Sign.names)) :
    NamesOf states ((Sign.opening tag :: attributes.map Attribute.sign ++ inside ++
      [Sign.closing before tag]).flatMap Sign.names) := by
  rw [List.flatMap_append, List.flatMap_append, List.flatMap_cons, List.flatMap_singleton,
    Sign.names_opening, Sign.names_closing, List.append_nil, List.nil_append]
  exact given.append contents

theorem Attribute.namesOf_signs {attributes : List Attribute}
    (worded : ∀ entry ∈ attributes, entry.Worded)
    (declared : ∀ entry ∈ attributes, entry.Declared states) :
    NamesOf states ((attributes.map Attribute.sign).flatMap Sign.names) := by
  induction attributes with
  | nil => exact List.forall_mem_nil _
  | cons entry attributes ih =>
      obtain ⟨word, others⟩ := List.forall_mem_cons.1 worded
      obtain ⟨here, rest⟩ := List.forall_mem_cons.1 declared
      rw [List.map_cons, List.flatMap_cons]
      refine NamesOf.append ?_ (ih others rest)
      cases entry with
      | key index => exact List.forall_mem_nil _
      | text name content =>
          rw [Attribute.sign, Sign.names_attribute]
          exact List.forall_mem_nil _
      | onClick setter screen =>
          obtain ⟨state, member, rfl⟩ := here
          have clicked : (Attribute.onClick state.setter screen).sign.wires = _ :=
            Attribute.wires_onClick word screen
          rw [Sign.names, clicked]
          exact List.forall_mem_singleton.2 ⟨state, member, .inr rfl⟩

mutual

theorem Phrase.namesOf_signs (phrase : Phrase) (worded : phrase.Worded named)
    (declared : phrase.Declared states) : NamesOf states (phrase.signs.flatMap Sign.names) := by
  cases phrase with
  | text content => exact List.forall_mem_nil _
  | void tag attributes =>
      rw [Phrase.signs, List.flatMap_cons, Sign.names_opening, List.nil_append]
      exact Attribute.namesOf_signs worded.2 declared
  | element tag attributes children =>
      exact namesOf_element (Attribute.namesOf_signs worded.2.1 declared.1)
        (Phrase.namesOf_signsOf children worded.2.2 declared.2)

theorem Phrase.namesOf_signsOf (phrases : List Phrase) (worded : Phrase.AllWorded named phrases)
    (declared : Phrase.AllDeclared states phrases) :
    NamesOf states ((Phrase.signsOf phrases).flatMap Sign.names) := by
  cases phrases with
  | nil => exact List.forall_mem_nil _
  | cons phrase phrases =>
      rw [Phrase.signsOf, List.flatMap_append]
      exact (Phrase.namesOf_signs phrase worded.1 declared.1).append
        (Phrase.namesOf_signsOf phrases worded.2 declared.2)

end

mutual

theorem Node.namesOf_signs (node : Node) (worded : node.Worded named)
    (declared : node.Declared states) (depth : Nat) :
    NamesOf states ((node.signs depth).flatMap Sign.names) := by
  cases node with
  | line phrase => exact phrase.namesOf_signs worded declared
  | element tag attributes children =>
      exact namesOf_element (Attribute.namesOf_signs worded.2.1 declared.1)
        (Node.namesOf_signsOf children worded.2.2 declared.2 (depth + 1))
  | guard state screen body =>
      obtain ⟨word, -, wordedBody⟩ := worded
      obtain ⟨⟨shown, member, rfl⟩, inside⟩ := declared
      have here : NamesOf states [shown.value] :=
        List.forall_mem_singleton.2 ⟨shown, member, .inl rfl⟩
      rw [Node.signs, List.flatMap_append, List.flatMap_cons, List.flatMap_singleton,
        Sign.names_guard word, Sign.names_guardEnd, List.append_nil]
      exact here.append (Node.namesOf_signs body wordedBody inside (depth + 1))

theorem Node.namesOf_signsOf (nodes : List Node) (worded : Node.AllWorded named nodes)
    (declared : Node.AllDeclared states nodes) (depth : Nat) :
    NamesOf states ((Node.signsOf depth nodes).flatMap Sign.names) := by
  cases nodes with
  | nil => exact List.forall_mem_nil _
  | cons node nodes =>
      rw [Node.signsOf, List.flatMap_append]
      exact (Node.namesOf_signs node worded.1 declared.1 depth).append
        (Node.namesOf_signsOf nodes worded.2 declared.2 depth)

end

end Jsx

/-! ## Components -/

namespace Component

/-- The line declares a state with the given names that names the screen `initial` at first. -/
def Declares (names : StateNames) (initial : Text) (line : Text) : Prop :=
  ∃ literal, Text.literalValue? literal = some initial ∧
    line = "  const [".toList ++ names.value ++ ", ".toList ++ names.setter ++
      "] = useState(".toList ++ literal ++ ");".toList

variable (blocks : List Block)

theorem initials_workflows :
    (workflows blocks).map Prod.snd = Block.initialScreensOf blocks :=
  Block.initials_walkOf [] 0 blocks

/-- A workflow is known by its place. -/
theorem nodup_places : ((workflows blocks).map Prod.fst).Nodup :=
  (Block.insideFrom_walkOf [] 0 blocks).nodup.sublist (workflowPlaces_sublist _)

theorem length_workflows : (workflows blocks).length = (Block.initialScreensOf blocks).length := by
  rw [← initials_workflows, List.length_map]

/-- The names for the first workflow of a document. -/
def firstNames (places : List Place) : Option StateNames :=
  places.head?.map (namesAt places)

/-- Outside of workflows buttons set the state of the first one. -/
theorem body_eq :
    let places := (workflows blocks).map Prod.fst
    body blocks =
      Block.listToJsx (setterFor (namesAt places) (firstNames places) none) 0 0 blocks := by
  intro places
  have initials := initials_workflows blocks
  cases found : workflows blocks with
  | nil =>
      rw [found] at initials
      simp [body, ← initials, places, found, setterFor, firstNames]
  | cons workflow others =>
      rw [found] at initials
      simp [body, ← initials, places, found, setterFor, firstNames, namesAt]

theorem callable_setterFor (places : List Place) (around : Option Place) :
    Callable (setterFor (namesAt places) (firstNames places) around) := by
  rintro name found
  obtain ⟨names, called, rfl⟩ := Option.map_eq_some_iff.1 found
  rcases Option.or_eq_some_iff.1 called with own | ⟨-, first⟩
  · obtain ⟨place, -, rfl⟩ := Option.map_eq_some_iff.1 own
    exact (StateNames.isIdentifier_ofIndex _).2
  · obtain ⟨place, -, rfl⟩ := Option.map_eq_some_iff.1 first
    exact (StateNames.isIdentifier_ofIndex _).2

/-- The wires in the text of the markup are those that the document asks for. -/
theorem wiresIn_markup :
    let places := (workflows blocks).map Prod.fst
    wiresIn (markup blocks) =
      Joint.wiresOf (namesAt places) (firstNames places) (Block.jointsOf none [] 0 blocks) := by
  intro places
  have numbered : Numbered places 0 (workflowPlaces (Block.walkOf [] 0 blocks)) :=
    ⟨[], [], by simp [places, workflows, workflowPlaces], rfl⟩
  rw [wiresIn, signsIn_markup, body_eq]
  exact Block.wiresOf_listToJsx (nodup_places blocks) (callable_setterFor places) blocks none [] 0
    numbered

/-- The states that a component declares are numbered like the workflows. -/
theorem states_eq_mapIdx :
    states blocks = (workflows blocks).mapIdx fun index _ => StateNames.ofIndex index := by
  rw [states, ← length_workflows]
  apply List.ext_getElem
  · simp
  · simp

theorem nodup_names :
    ((states blocks).map StateNames.value ++ (states blocks).map StateNames.setter).Nodup := by
  rw [states, List.map_map, List.map_map]
  exact StateNames.nodup_names _

/-- Every name that the markup uses is declared, and declared once. -/
theorem count_name {name : Text} (used : name ∈ (wiresIn (markup blocks)).flatMap Wire.names) :
    ((states blocks).map StateNames.value ++ (states blocks).map StateNames.setter).count name =
      1 := by
  rw [wiresIn, signsIn_markup, List.flatMap_assoc] at used
  obtain ⟨state, member, named⟩ :=
    Node.namesOf_signsOf (body blocks) (worded_body blocks) (allDeclared_body blocks) 3 name used
  have declared : name ∈
      (states blocks).map StateNames.value ++ (states blocks).map StateNames.setter := by
    rcases named with rfl | rfl
    · exact List.mem_append_left _ (List.mem_map_of_mem member)
    · exact List.mem_append_right _ (List.mem_map_of_mem member)
  rw [(nodup_names blocks).count, if_pos declared]

theorem isPrefix_importLine (widget : Widget) : "import ".toList <+: widget.importLine :=
  ⟨"\x7b ".toList ++ Text.joined ", ".toList widget.exports ++
    " \x7d from \"@/components/ui/".toList ++ widget.file ++ "\";".toList, rfl⟩

/-- In front of the markup there are imports, the head of the component, and a line for each of its
states. -/
theorem ofBlocks_eq_declarations :
    ∃ imports declarations : List Text,
      ofBlocks blocks =
          imports.flatMap (· ++ ['\n']) ++ "\nexport function GeneratedComponent() \x7b\n".toList ++
            declarations.flatMap (· ++ ['\n']) ++ opening ++ markup blocks ++ closing ∧
        (∀ line ∈ imports, "import ".toList <+: line) ∧
        declarations.length = (workflows blocks).length ∧
        ∀ index line place initial, declarations[index]? = some line →
          (workflows blocks)[index]? = some (place, initial) →
            Declares (StateNames.ofIndex index) initial line := by
  refine ⟨writtenImports blocks, (Block.initialScreensOf blocks).mapIdx stateLine, ?_, ?_, ?_, ?_⟩
  · have head : printModule ["".toList, "export function GeneratedComponent() \x7b".toList] =
        "\nexport function GeneratedComponent() \x7b\n".toList := by decide
    have shown : printModule ["  return (".toList, "    <div className=\"space-y-2\">".toList] =
        opening := by decide
    have ended : printModule ["    </div>".toList, "  );".toList, "\x7d".toList] = closing := by
      decide
    rw [ofBlocks, moduleLines, printModule_append, printModule_append, printModule_append,
      printModule_append, printModule_append, head, shown, ended]
    rfl
  · intro line member
    rcases List.mem_append.1 member with react | widget
    · split at react
      · cases react
      · rw [List.mem_singleton.1 react]
        decide
    · obtain ⟨used, -, rfl⟩ := List.mem_map.1 widget
      exact isPrefix_importLine used
  · rw [List.length_mapIdx, length_workflows]
  · intro index line place initial declared found
    rw [← initials_workflows, List.getElem?_mapIdx, List.getElem?_map, found] at declared
    cases declared
    exact ⟨Text.literal initial, Text.literalValue?_literal initial, rfl⟩

/-- The states and the markup of a component, read from its text, fit the workflows of its document.
There is one state for each workflow, declared in document order and starting with the initial
screen of the workflow. Each screen of a workflow is shown while the state of this workflow names
it; and a button that leads somewhere sets the state of the innermost workflow around it, or that of
the first workflow if it stands in none, or nothing if there are no workflows. Every name that is
used for this is declared exactly once. -/
theorem ofBlocks_wiring (blocks : List Block) :
    let workflows := Component.workflows blocks
    let places := workflows.map Prod.fst
    let namesAt := fun place => StateNames.ofIndex (places.idxOf place)
    let states := workflows.mapIdx fun index _ => StateNames.ofIndex index
    let names := states.map StateNames.value ++ states.map StateNames.setter
    let wires := wiresIn (markup blocks)
    (∃ imports declarations : List Text,
      ofBlocks blocks =
          imports.flatMap (· ++ ['\n']) ++ "\nexport function GeneratedComponent() \x7b\n".toList ++
            declarations.flatMap (· ++ ['\n']) ++ opening ++ markup blocks ++ closing ∧
        (∀ line ∈ imports, "import ".toList <+: line) ∧
        declarations.length = workflows.length ∧
        ∀ index line place initial, declarations[index]? = some line →
          workflows[index]? = some (place, initial) →
            Declares (StateNames.ofIndex index) initial line) ∧
      places.Nodup ∧ names.Nodup ∧
      wires = Joint.wiresOf namesAt (places.head?.map namesAt) (Block.jointsOf none [] 0 blocks) ∧
      ∀ name ∈ wires.flatMap Wire.names, names.count name = 1 := by
  intro workflows places namesAt states names wires
  have named : names =
      (Component.states blocks).map StateNames.value ++
        (Component.states blocks).map StateNames.setter := by
    rw [states_eq_mapIdx]
  refine ⟨ofBlocks_eq_declarations blocks, nodup_places blocks, ?_, wiresIn_markup blocks, ?_⟩
  · rw [named]
    exact nodup_names blocks
  · intro name used
    rw [named]
    exact count_name blocks used

/-- A workflow in a screen of another one, and a button behind it. -/
example :
    let button := Block.item (.control (.button ⟨['x'], .outline, none, some ['b']⟩))
    let inner := Block.workflow ['b'] [⟨['b'], []⟩]
    wiresIn (markup [.workflow ['a'] [⟨['a'], [inner, button]⟩]]) =
      [.guard "currentScreen".toList ['a'], .screen ['a'],
        .guard "currentScreen2".toList ['b'], .screen ['b'], .unguard,
        .button, .click "setCurrentScreen".toList ['b'], .label ['x'], .unguard] := by
  decide +kernel

end Component

end Mockup
