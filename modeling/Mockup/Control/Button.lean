import Mockup.Control
import Mockup.Text.Split

/-!
# Buttons in a line

A button stands in brackets. Parentheses around its content make it a primary one, an arrow leads
to a screen, and a single button may carry style classes behind a bar. Several bracket pairs in a
row are a row of buttons.
-/

namespace Mockup.Button

/-- The arrow in front of the screen that a button leads to. -/
def arrow : Text := "->".toList

/-- Reads an arrow and the screen behind it, blanks in front included; a screen name holds no
blank, no closing bracket and no bar. -/
def readTarget? (text : Text) : Option (Text × Text) := do
  let behind ← Text.after? arrow (Text.trimStart text)
  let isPlain := fun character => !Text.isBlank character && character ≠ '|' && character ≠ ']'
  let named := Text.trimStart behind
  let target := named.takeWhile isPlain
  if target ≠ [] then some (target, named.dropWhile isPlain) else none

/-- Reads style classes up to the bracket that ends the button, blanks in front of the bar
included. -/
def readClasses? (text : Text) : Option Text := do
  let behind ← Text.after? ['|'] (Text.trimStart text)
  let inner ← Text.before? [']'] (Text.chomp behind)
  let classes := Text.skipBlanks inner
  if classes ≠ [] ∧ Text.oneLine classes then some classes else none

/-- Reads what follows the content of a single button, up to its end: an optional target and
optional classes. Classes that are all blank count as none. -/
def readTail? (text : Text) : Option (Option Text × Option Text) :=
  let (target, rest) := match readTarget? text with
    | some (target, rest) => (some target, rest)
    | none => (none, text)
  match readClasses? rest with
  | some classes =>
    let classes := Text.trim classes
    some (target, if classes = [] then none else some classes)
  | none => if Text.isClosed [']'] rest then some (target, none) else none

/-- A line that is one primary button. -/
def primary? (line : Text) : Option Button := do
  let inner ← Text.after? ['[', '('] line
  let (content, target, classes) ←
    Text.until? (fun text => (Text.after? [')'] text).bind readTail?) inner
  if Text.oneLine content then some ⟨Text.trim content, .primary, classes, target⟩ else none

/-- A line that is one outlined button. -/
def outline? (line : Text) : Option Button := do
  let inner ← Text.after? ['['] line
  let (content, target, classes) ← Text.until? readTail? inner
  if content.contains '|' then none else some ⟨Text.trim content, .outline, classes, target⟩

/-- Reads what follows the content of a button in a row, up to the end of its bracket pair: blanks
and an optional target, which holds no bracket and no bar. -/
def readGroupTail? (text : Text) : Option (Option Text) :=
  match Text.trimStart text with
  | [] => some none
  | first :: rest => do
    let behind ← Text.after? arrow (first :: rest)
    let isPlain := fun character => !Text.isBlank character && !"[]|".toList.contains character
    let named := Text.trimStart behind
    let target := named.takeWhile isPlain
    if target ≠ [] ∧ Text.allBlank (named.dropWhile isPlain) then some (some target) else none

/-- The primary button that the inside of a bracket pair stands for. -/
def primaryOfGroup? (group : Text) : Option Button := do
  let inner ← Text.after? ['('] (Text.trimStart group)
  let (content, target) ←
    Text.until? (fun text => (Text.after? [')'] text).bind readGroupTail?) inner
  if Text.oneLine content then some ⟨Text.trim content, .primary, none, target⟩ else none

/-- The outlined button that the inside of a bracket pair stands for. When no content that keeps
to one line is found behind the leading blanks, one of those blanks serves as an empty content. -/
def outlineOfGroup? (group : Text) : Option Button :=
  let inner := Text.trimStart group
  match (Text.until? readGroupTail? inner).filter fun (content, _) => Text.oneLine content with
  | some (content, target) => some ⟨Text.trim content, .outline, none, target⟩
  | none =>
    if (group.takeWhile Text.isBlank).any (· ≠ '\n') then
      (readGroupTail? inner).map fun target => ⟨[], .outline, none, target⟩
    else none

/-- A bracket pair whose inside is not a button. -/
structure UnreadableGroup where
  group : Text
  deriving DecidableEq, Repr

/-- The button that the inside of a bracket pair stands for. -/
def ofGroup (group : Text) : Except UnreadableGroup Button :=
  match (primaryOfGroup? group).or (outlineOfGroup? group) with
  | some button => .ok button
  | none => .error ⟨group⟩

/-- Reads bracket pairs with blanks behind them up to the end of a line. `inside` is what has been
read of the current pair, the latest character first, or `none` between two pairs. -/
def readGroups? : (inside : Option Text) → Text → Option (List Text)
  | none, [] => some []
  | some _, [] => none
  | none, character :: rest =>
    if Text.isBlank character then readGroups? none rest
    else if character = '[' then readGroups? (some []) rest
    else none
  | some [], character :: rest =>
    if "[]|".toList.contains character then none else readGroups? (some [character]) rest
  | some (latest :: earlier), character :: rest =>
    if character = ']' then
      (readGroups? none rest).map ((latest :: earlier).reverse :: ·)
    else if "[|".toList.contains character then none
    else readGroups? (some (character :: latest :: earlier)) rest

/-- The insides of the bracket pairs of a line that is made of two or more of them. -/
def rowGroups? (line : Text) : Option (List Text) :=
  if line.head? = some '[' then
    (readGroups? none line).filter fun groups => 2 ≤ groups.length
  else none

/-- The buttons of a line that is a row of them. -/
def row? (line : Text) : Except UnreadableGroup (Option (List Button)) :=
  match rowGroups? line with
  | none => .ok none
  | some groups => (groups.mapM ofGroup).map some

/-- Every bracket pair of a row holds something, and only characters of the line. -/
theorem mem_readGroups? {inside : Option Text} {text group : Text} {groups : List Text}
    (found : readGroups? inside text = some groups) (member : group ∈ groups) :
    group ≠ [] ∧ group ⊆ inside.getD [] ++ text := by
  fun_induction readGroups? inside text generalizing groups with
  | case1 => simp_all
  | case2 => simp at found
  | case3 character rest _ ih => grind
  | case4 rest _ ih => grind
  | case5 => simp at found
  | case6 => simp at found
  | case7 character rest _ ih => grind
  | case8 latest earlier rest ih =>
    obtain ⟨later, read, rfl⟩ := Option.map_eq_some_iff.1 found
    rcases List.mem_cons.1 member with rfl | other
    · exact ⟨by simp, fun c => by simp; grind⟩
    · have := ih read other
      grind
  | case9 => simp at found
  | case10 latest earlier character rest _ _ ih => grind

/-- What stands in a bracket pair on one line can always be read as a button. -/
theorem ofGroup_eq_ok {group : Text} (nonempty : group ≠ []) (single : Text.oneLine group = true) :
    ∃ button, ofGroup group = .ok button := by
  have outlined : (outlineOfGroup? group).isSome := by
    rw [outlineOfGroup?]
    simp only
    split
    · rfl
    · rename_i failed
      by_cases blank : Text.trimStart group = []
      · have whole : group.takeWhile Text.isBlank = group := by
          have := List.takeWhile_append_dropWhile (p := Text.isBlank) (l := group)
          rw [Text.trimStart] at blank
          rwa [blank, List.append_nil] at this
        have visible : (group.takeWhile Text.isBlank).any (· ≠ '\n') = true := by
          rw [whole]
          cases group with
          | nil => exact absurd rfl nonempty
          | cons first rest =>
            simp only [Text.oneLine, Bool.not_eq_true', List.contains_eq_mem,
              decide_eq_false_iff_not, List.mem_cons, not_or] at single
            simp [Ne.symm single.1]
        rw [if_pos visible, blank]
        rfl
      · have cut : (Text.until? readGroupTail? (Text.trimStart group)).isSome :=
          Text.until?_isSome blank rfl
        obtain ⟨⟨content, target⟩, found⟩ := Option.isSome_iff_exists.1 cut
        obtain ⟨_, rest, whole, _⟩ := Text.until?_eq_some found
        have part : content ⊆ group := fun c member =>
          (List.dropWhile_sublist Text.isBlank).subset
            (show c ∈ Text.trimStart group by rw [whole]; exact List.mem_append_left _ member)
        simp [found, Text.oneLine_of_subset single part] at failed
  rw [ofGroup]
  obtain ⟨button, outlined⟩ := Option.isSome_iff_exists.1 outlined
  cases primaryOfGroup? group <;> simp [outlined]

/-- A row of buttons on one line can always be read. -/
theorem row?_eq_ok {line : Text} (single : Text.oneLine line = true) :
    ∃ buttons, row? line = .ok buttons := by
  rw [row?]
  split
  · exact ⟨_, rfl⟩
  · rename_i groups found
    have readable : ∀ group ∈ groups, ∃ button, ofGroup group = .ok button := by
      intro group member
      simp only [rowGroups?] at found
      split at found
      · have := mem_readGroups? (Option.filter_eq_some_iff.1 found).1 member
        exact ofGroup_eq_ok this.1 (Text.oneLine_of_subset single (by simpa using this.2))
      · simp at found
    have : ∃ buttons, groups.mapM ofGroup = .ok buttons := by
      clear found
      induction groups with
      | nil => exact ⟨[], rfl⟩
      | cons group groups ih =>
        obtain ⟨button, first⟩ := readable group (by simp)
        obtain ⟨buttons, others⟩ := ih fun group member => readable group (by simp [member])
        exact ⟨button :: buttons, by simp [List.mapM_cons, first, others]; rfl⟩
    obtain ⟨buttons, all⟩ := this
    exact ⟨some buttons, by rw [all]; rfl⟩

end Mockup.Button
