import Mockup.Item.Reader
import Mockup.Proofs.Text
import Mockup.Proofs.WellFormed

/-!
# What lines are read as

Whatever rule reads a line, the item is well-formed and every text in it is made of characters of
the line. Each reader of the notation has one lemma, which says both about what it returns; the
rules are put together from them.
-/

namespace Mockup

namespace Inline

theorem subset_of_between? {opening closing text content rest : Text}
    (found : between? opening closing text = some (content, rest)) :
    content ⊆ text ∧ rest ⊆ text := by
  rw [(between?_eq_some found).1]
  constructor
  · intro character member
    simp [member]
  · exact List.subset_append_right _ _

theorem subset_of_emphasis? {text rest : Text} {node : Inline}
    (found : emphasis? text = some (node, rest)) :
    (∀ content ∈ node.texts, content ⊆ text) ∧ rest ⊆ text := by
  rw [emphasis?] at found
  split at found
  · rename_i content tail inner
    cases found
    simpa [texts] using subset_of_between? inner
  · split at found
    · rename_i content tail inner
      cases found
      simpa [texts] using subset_of_between? inner
    · rw [Option.map_eq_some_iff] at found
      obtain ⟨⟨content, tail⟩, inner, found⟩ := found
      cases found
      simpa [texts] using subset_of_between? inner

theorem read_ne_nil {text : Text} (nonempty : text ≠ []) : read text ≠ [] := by
  cases text with
  | nil => exact absurd rfl nonempty
  | cons character rest =>
      rw [read]
      split
      · exact List.cons_ne_nil _ _
      · split
        · exact List.cons_ne_nil _ _
        · exact List.cons_ne_nil _ _

theorem subset_of_mem_read {text : Text} :
    ∀ node ∈ read text, ∀ content ∈ node.texts, content ⊆ text := by
  fun_induction read text with
  | case1 => simp
  | case2 character rest node behind found ih =>
      obtain ⟨inside, later⟩ := subset_of_emphasis? found
      intro other member content held
      rcases List.mem_cons.1 member with rfl | member
      · exact inside content held
      · exact List.Subset.trans (ih other member content held) later
  | case3 character rest found marker ih =>
      intro other member content held
      rcases List.mem_cons.1 member with rfl | member
      · rw [List.mem_singleton.1 held]
        exact List.cons_subset_cons _ (List.nil_subset _)
      · exact List.subset_cons_of_subset _ (ih other member content held)
  | case4 character rest found plain ih =>
      intro other member content held
      rcases List.mem_cons.1 member with rfl | member
      · rw [List.mem_singleton.1 held]
        exact List.cons_subset_cons _ (List.takeWhile_subset _)
      · apply List.subset_cons_of_subset
        exact List.Subset.trans (ih other member content held) (List.dropWhile_subset _)

end Inline

/-- A well-formed control with nothing in it but characters of the line. -/
structure Control.Within (line : Text) (control : Control) : Prop where
  wellFormed : control.WellFormed
  subset : ∀ text ∈ control.texts, text ⊆ line

theorem Control.Within.trans {part line : Text} {control : Control}
    (within : control.Within part) (subset : part ⊆ line) : control.Within line :=
  ⟨within.wellFormed, fun text held => List.Subset.trans (within.subset text held) subset⟩

/-- A well-formed item with nothing in it but characters of the line. -/
structure Item.Within (line : Text) (item : Item) : Prop where
  wellFormed : item.WellFormed
  subset : ∀ text ∈ item.texts, text ⊆ line

theorem Text.isEntry_of_mem_entries {stop : Char} {text entry : Text}
    (member : entry ∈ entries stop text) : IsEntry stop entry := by
  obtain ⟨trimmed, nonempty, free, -⟩ := mem_entries member
  exact ⟨trimmed, nonempty, free⟩

namespace Field

theorem subset_of_labelled? {α : Type} {read : Text → Option α} {line label : Text} {found : α}
    (labelled : labelled? read line = some (label, found)) :
    label ⊆ line ∧ ∃ rest, rest ⊆ line ∧ read rest = some found := by
  simp only [labelled?, Option.bind_eq_bind, Option.bind_eq_some_iff] at labelled
  obtain ⟨⟨front, value⟩, cut, guarded⟩ := labelled
  split at guarded
  · cases guarded
    obtain ⟨within, rest, behind, read⟩ := Text.until?_subset cut
    obtain ⟨last, later, success⟩ := Text.behindBlanks?_eq_some read
    exact ⟨List.Subset.trans (Text.trim_subset front) within, last,
      List.Subset.trans later behind, success⟩
  · cases guarded

theorem subset_of_bare? {marker line label : Text} (found : bare? marker line = some label) :
    label ⊆ line := by
  rw [bare?, Option.map_eq_some_iff] at found
  obtain ⟨⟨front, value⟩, labelled, rfl⟩ := found
  exact (subset_of_labelled? labelled).1

theorem subset_of_readListed? {marker text list : Text}
    (found : readListed? marker text = some list) : list ⊆ text := by
  simp only [readListed?, Option.bind_eq_bind, Option.bind_eq_some_iff] at found
  obtain ⟨rest, marked, inner, opened, front, closed, guarded⟩ := found
  split at guarded
  · cases guarded
    calc
      list ⊆ Text.chomp inner := Text.before?_subset closed
      _ ⊆ inner := Text.chomp_subset inner
      _ ⊆ Text.trimStart rest := Text.after?_subset opened
      _ ⊆ rest := Text.trimStart_subset rest
      _ ⊆ text := Text.after?_subset marked
  · cases guarded

theorem subset_of_listed? {marker line label list : Text}
    (found : listed? marker line = some (label, list)) : label ⊆ line ∧ list ⊆ line := by
  obtain ⟨within, rest, behind, read⟩ := subset_of_labelled? found
  exact ⟨within, List.Subset.trans (subset_of_readListed? read) behind⟩

theorem subset_of_mem_findAll {line : Text} :
    ∀ field ∈ findAll line, field.1 ⊆ line ∧ field.2 ⊆ line := by
  fun_induction findAll line with
  | case1 => simp
  | case2 line label marker rest found ih =>
      obtain ⟨within, behind, part, read⟩ := Text.until?_subset found
      obtain ⟨last, later, success⟩ := Text.behindBlanks?_eq_some read
      have here : last ⊆ line := List.Subset.trans later part
      rw [(readMarker?_eq_some success).1, List.append_subset] at here
      intro field member
      rcases List.mem_cons.1 member with rfl | member
      · exact ⟨within, here.1⟩
      · obtain ⟨labelWithin, markerWithin⟩ := ih field member
        exact ⟨List.Subset.trans labelWithin here.2, List.Subset.trans markerWithin here.2⟩

theorem subset_of_bracketed? {marker list : Text} (found : bracketed? marker = some list) :
    list ⊆ marker := by
  induction marker with
  | nil => cases found
  | cons character rest ih =>
      rw [bracketed?] at found
      split at found
      · rename_i inside behind enclosed
        cases found
        split at enclosed
        · exact List.subset_cons_of_subset _ (Text.upTo?_subset enclosed)
        · cases enclosed
      · exact List.subset_cons_of_subset _ (ih found)

/-- The options of a list are entries made of its characters. -/
theorem within_dropdown {line label : Text} {list : Option Text} (labelWithin : label ⊆ line)
    (listWithin : ∀ inside ∈ list, inside ⊆ line) :
    Control.Within line (.dropdown label (list.map splitOptions)) := by
  constructor
  · intro options listed option member
    obtain ⟨inside, -, rfl⟩ := Option.map_eq_some_iff.1 listed
    exact Text.isEntry_of_mem_entries member
  · intro text held
    rcases List.mem_cons.1 held with rfl | member
    · exact labelWithin
    · cases list with
      | none => simp at member
      | some inside =>
          obtain ⟨-, -, -, within⟩ := Text.mem_entries member
          exact List.Subset.trans within (listWithin inside rfl)

theorem within_toControl {line label marker : Text} (labelWithin : label ⊆ line)
    (markerWithin : marker ⊆ line) :
    (toControl label marker).isButton = false ∧ (toControl label marker).Within line := by
  have trimmed : Text.trim label ⊆ line := List.Subset.trans (Text.trim_subset label) labelWithin
  have plain : ∀ text ∈ [Text.trim label], text ⊆ line := List.forall_mem_singleton.2 trimmed
  simp only [toControl]
  split
  · exact ⟨rfl, trivial, plain⟩
  · split
    · exact ⟨rfl, trivial, plain⟩
    · split
      · exact ⟨rfl, trivial, plain⟩
      · split
        · refine ⟨rfl, within_dropdown trimmed ?_⟩
          intro inside found
          exact List.Subset.trans (subset_of_bracketed? found) markerWithin
        · exact ⟨rfl, trivial, plain⟩

end Field

/-- A name of a screen that is made of characters of the text, if there is a name at all. -/
def NamedWithin (text : Text) (name : Option Text) : Prop :=
  ∀ target ∈ name, target.IsName ∧ target ⊆ text

theorem NamedWithin.trans {part text : Text} {name : Option Text} (named : NamedWithin part name)
    (within : part ⊆ text) : NamedWithin text name := by
  intro target found
  obtain ⟨isName, subset⟩ := named target found
  exact ⟨isName, List.Subset.trans subset within⟩

/-- The longest front of a text without blanks and brackets is a name. -/
theorem Text.isName_takeWhile {accepts : Char → Bool} {text : Text}
    (plain : ∀ character, accepts character = true → isBlank character = false ∧ character ≠ ']')
    (nonempty : text.takeWhile accepts ≠ []) : IsName (text.takeWhile accepts) := by
  refine ⟨nonempty, ?_⟩
  intro character member
  exact plain character (List.mem_takeWhile_imp member)

namespace Button

theorem named_of_readTarget? {text target rest : Text}
    (found : readTarget? text = some (target, rest)) :
    (target.IsName ∧ target ⊆ text) ∧ rest ⊆ text := by
  simp only [readTarget?, Option.bind_eq_bind, Option.bind_eq_some_iff] at found
  obtain ⟨behind, led, guarded⟩ := found
  have later : Text.trimStart behind ⊆ text := Text.trimStart_after?_subset led
  split at guarded
  · rename_i nonempty
    cases guarded
    refine ⟨⟨Text.isName_takeWhile ?_ nonempty, ?_⟩, ?_⟩
    · intro character plain
      simp at plain
      exact ⟨plain.1.1, plain.2⟩
    · exact List.Subset.trans (List.takeWhile_subset _) later
    · exact List.Subset.trans (List.dropWhile_subset _) later
  · cases guarded

theorem subset_of_readClasses? {text classes : Text} (found : readClasses? text = some classes) :
    classes ⊆ text := by
  simp only [readClasses?, Option.bind_eq_bind, Option.bind_eq_some_iff] at found
  obtain ⟨behind, barred, inner, closed, guarded⟩ := found
  split at guarded
  · cases guarded
    calc
      Text.skipBlanks inner ⊆ inner := Text.skipBlanks_subset inner
      _ ⊆ Text.chomp behind := Text.before?_subset closed
      _ ⊆ behind := Text.chomp_subset behind
      _ ⊆ Text.trimStart text := Text.after?_subset barred
      _ ⊆ text := Text.trimStart_subset text
  · cases guarded

/-- Which target and which classes may stand behind the content of a button. -/
theorem named_of_readTail? {text : Text} {target classes : Option Text}
    (found : readTail? text = some (target, classes)) :
    NamedWithin text target ∧ ∀ names ∈ classes, names ⊆ text := by
  rw [readTail?] at found
  split at found
  rename_i name rest cut
  obtain ⟨named, later⟩ : NamedWithin text name ∧ rest ⊆ text := by
    split at cut
    · rename_i target behind led
      cases cut
      obtain ⟨named, later⟩ := named_of_readTarget? led
      exact ⟨by simpa [NamedWithin] using named, later⟩
    · cases cut
      exact ⟨by simp [NamedWithin], List.Subset.refl text⟩
  split at found
  · rename_i names read
    cases found
    refine ⟨named, ?_⟩
    intro kept trimmed
    split at trimmed
    · cases trimmed
    · cases trimmed
      have within : Text.trim names ⊆ rest :=
        List.Subset.trans (Text.trim_subset names) (subset_of_readClasses? read)
      exact List.Subset.trans within later
  · split at found
    · cases found
      exact ⟨named, by simp⟩
    · cases found

/-- A button with nothing in it but characters of the line. -/
theorem within_button {line : Text} {button : Button} (content : button.content ⊆ line)
    (classes : ∀ names ∈ button.className, names ⊆ line)
    (named : NamedWithin line button.navigateTo) : Control.Within line (.button button) := by
  constructor
  · intro target found
    exact (named target found).1
  · intro text held
    simp only [Control.texts, List.mem_cons, List.mem_append, Option.mem_toList] at held
    rcases held with rfl | styled | targeted
    · exact content
    · exact classes text styled
    · exact (named text targeted).2

theorem within_primary? {line : Text} {button : Button} (found : primary? line = some button) :
    Control.Within line (.button button) := by
  simp only [primary?, Option.bind_eq_bind, Option.bind_eq_some_iff] at found
  obtain ⟨inner, opened, ⟨content, target, classes⟩, cut, guarded⟩ := found
  split at guarded
  · cases guarded
    have inside : inner ⊆ line := Text.after?_subset opened
    obtain ⟨front, rest, behind, read⟩ := Text.until?_subset cut
    obtain ⟨last, closed, tailed⟩ := Option.bind_eq_some_iff.1 read
    obtain ⟨named, styled⟩ := named_of_readTail? tailed
    have later : last ⊆ line :=
      List.Subset.trans (Text.after?_subset closed) (List.Subset.trans behind inside)
    apply within_button
    · exact List.Subset.trans (Text.trim_subset content) (List.Subset.trans front inside)
    · exact fun names found => List.Subset.trans (styled names found) later
    · exact named.trans later
  · cases guarded

theorem within_outline? {line : Text} {button : Button} (found : outline? line = some button) :
    Control.Within line (.button button) := by
  simp only [outline?, Option.bind_eq_bind, Option.bind_eq_some_iff] at found
  obtain ⟨inner, opened, ⟨content, target, classes⟩, cut, guarded⟩ := found
  split at guarded
  · cases guarded
  · cases guarded
    have inside : inner ⊆ line := Text.after?_subset opened
    obtain ⟨front, rest, behind, tailed⟩ := Text.until?_subset cut
    obtain ⟨named, styled⟩ := named_of_readTail? tailed
    have later : rest ⊆ line := List.Subset.trans behind inside
    apply within_button
    · exact List.Subset.trans (Text.trim_subset content) (List.Subset.trans front inside)
    · exact fun names found => List.Subset.trans (styled names found) later
    · exact named.trans later

theorem named_of_readGroupTail? {text : Text} {target : Option Text}
    (found : readGroupTail? text = some target) : NamedWithin text target := by
  rw [readGroupTail?] at found
  split at found
  · cases found
    simp [NamedWithin]
  · rename_i first rest trimmed
    simp only [Option.bind_eq_bind, Option.bind_eq_some_iff] at found
    obtain ⟨behind, led, guarded⟩ := found
    split at guarded
    · rename_i plain
      cases guarded
      have later : Text.trimStart behind ⊆ text := by
        rw [← trimmed] at led
        exact Text.trimStart_after?_subset led
      intro name found
      cases found
      refine ⟨Text.isName_takeWhile ?_ plain.1, List.Subset.trans (List.takeWhile_subset _) later⟩
      intro character accepted
      simp at accepted
      exact ⟨accepted.1, accepted.2.2.1⟩
    · cases guarded

theorem within_primaryOfGroup? {group : Text} {button : Button}
    (found : primaryOfGroup? group = some button) : Control.Within group (.button button) := by
  simp only [primaryOfGroup?, Option.bind_eq_bind, Option.bind_eq_some_iff] at found
  obtain ⟨inner, opened, ⟨content, target⟩, cut, guarded⟩ := found
  split at guarded
  · cases guarded
    have inside : inner ⊆ group :=
      List.Subset.trans (Text.after?_subset opened) (Text.trimStart_subset group)
    obtain ⟨front, rest, behind, read⟩ := Text.until?_subset cut
    obtain ⟨last, closed, tailed⟩ := Option.bind_eq_some_iff.1 read
    apply within_button
    · exact List.Subset.trans (Text.trim_subset content) (List.Subset.trans front inside)
    · simp
    · have later : last ⊆ group :=
        List.Subset.trans (Text.after?_subset closed) (List.Subset.trans behind inside)
      exact (named_of_readGroupTail? tailed).trans later
  · cases guarded

theorem within_outlineOfGroup? {group : Text} {button : Button}
    (found : outlineOfGroup? group = some button) : Control.Within group (.button button) := by
  simp only [outlineOfGroup?] at found
  have inside : Text.trimStart group ⊆ group := Text.trimStart_subset group
  split at found
  · rename_i content target cut
    cases found
    obtain ⟨front, rest, behind, tailed⟩ :=
      Text.until?_subset (Option.filter_eq_some_iff.1 cut).1
    apply within_button
    · exact List.Subset.trans (Text.trim_subset content) (List.Subset.trans front inside)
    · simp
    · exact (named_of_readGroupTail? tailed).trans (List.Subset.trans behind inside)
  · split at found
    · obtain ⟨target, tailed, rfl⟩ := Option.map_eq_some_iff.1 found
      apply within_button
      · exact List.nil_subset group
      · simp
      · exact (named_of_readGroupTail? tailed).trans inside
    · cases found

theorem within_ofGroup {group : Text} {button : Button} (found : ofGroup group = .ok button) :
    Control.Within group (.button button) := by
  rw [ofGroup] at found
  split at found
  · rename_i read
    cases found
    rcases Option.or_eq_some_iff.1 read with primary | ⟨-, outlined⟩
    · exact within_primaryOfGroup? primary
    · exact within_outlineOfGroup? outlined
  · cases found

/-- Each button of a row stands for one of its bracket pairs. -/
theorem mapM_ofGroup_eq_ok {groups : List Text} {buttons : List Button}
    (read : groups.mapM ofGroup = .ok buttons) :
    buttons.length = groups.length ∧
      ∀ button ∈ buttons, ∃ group ∈ groups, ofGroup group = .ok button := by
  induction groups generalizing buttons with
  | nil =>
      cases read
      simp
  | cons group groups ih =>
      rw [List.mapM_cons] at read
      cases first : ofGroup group with
      | error unreadable =>
          rw [first] at read
          cases read
      | ok button =>
          rw [first] at read
          cases others : groups.mapM ofGroup with
          | error unreadable =>
              rw [others] at read
              cases read
          | ok more =>
              rw [others] at read
              cases read
              obtain ⟨sameLength, stands⟩ := ih others
              refine ⟨congrArg Nat.succ sameLength, ?_⟩
              intro other member
              rcases List.mem_cons.1 member with rfl | member
              · exact ⟨group, List.mem_cons_self, first⟩
              · obtain ⟨inside, grouped, made⟩ := stands other member
                exact ⟨inside, List.mem_cons_of_mem group grouped, made⟩

/-- A row of buttons has at least two of them. -/
theorem within_row? {line : Text} {buttons : List Button} (found : row? line = .ok (some buttons)) :
    2 ≤ buttons.length ∧ ∀ button ∈ buttons, Control.Within line (.button button) := by
  rw [row?] at found
  split at found
  · cases found
  · rename_i groups grouped
    cases read : groups.mapM ofGroup with
    | error unreadable =>
        rw [read] at found
        cases found
    | ok several =>
        rw [read] at found
        cases found
        rw [rowGroups?] at grouped
        split at grouped
        · obtain ⟨insides, counted⟩ := Option.filter_eq_some_iff.1 grouped
          obtain ⟨sameLength, stands⟩ := mapM_ofGroup_eq_ok read
          constructor
          · rw [sameLength]
            exact of_decide_eq_true counted
          · intro button member
            obtain ⟨group, grouped, made⟩ := stands button member
            obtain ⟨-, within⟩ := mem_readGroups? insides grouped
            exact (within_ofGroup made).trans within
        · cases grouped

end Button

/-! ## Items -/

namespace Item

variable {line : Text} {item : Item}

theorem within_control {control : Control} (within : control.Within line) :
    Item.Within line (.control control) :=
  ⟨within.wellFormed, within.subset⟩

/-- Controls side by side, all of one sort. -/
theorem within_row {controls : List Control} (several : 2 ≤ controls.length)
    (alike : (∀ control ∈ controls, control.isButton = true) ∨
      ∀ control ∈ controls, control.isButton = false)
    (within : ∀ control ∈ controls, control.Within line) : Item.Within line (.row controls) := by
  refine ⟨⟨several, alike, fun control member => (within control member).wellFormed⟩, ?_⟩
  intro text held
  obtain ⟨control, member, held⟩ := List.mem_flatMap.1 held
  exact (within control member).subset text held

theorem subset_of_mem_flatMap_read {text : Text} :
    ∀ content ∈ (Inline.read text).flatMap Inline.texts, content ⊆ text := by
  intro content held
  obtain ⟨node, member, held⟩ := List.mem_flatMap.1 held
  exact Inline.subset_of_mem_read node member content held

theorem within_header? (found : header? line = some item) : item.Within line := by
  simp only [header?, Option.bind_eq_bind, Option.bind_eq_some_iff] at found
  obtain ⟨level, -, content, behind, guarded⟩ := found
  split at guarded
  · cases guarded
    obtain ⟨nonempty, later⟩ := Text.afterBlanks?_eq_some behind
    have within : content ⊆ line :=
      List.Subset.trans (List.Subset.trans later (Text.chomp_subset _)) (List.dropWhile_subset _)
    refine ⟨⟨level.positive, level.atMostSix, Inline.read_ne_nil nonempty⟩, ?_⟩
    intro text held
    exact List.Subset.trans (subset_of_mem_flatMap_read text held) within
  · cases guarded

theorem within_fieldGroup? (found : fieldGroup? line = some item) : item.Within line := by
  rw [fieldGroup?] at found
  split at found
  · rename_i first second more fields
    cases found
    have each : ∀ field ∈ first :: second :: more,
        (Field.toControl field.1 field.2).isButton = false ∧
          (Field.toControl field.1 field.2).Within line := by
      intro field member
      rw [← fields] at member
      obtain ⟨labelWithin, markerWithin⟩ := Field.subset_of_mem_findAll field member
      exact Field.within_toControl labelWithin markerWithin
    apply within_row
    · simp
    · right
      intro control made
      obtain ⟨field, member, rfl⟩ := List.mem_map.1 made
      exact (each field member).1
    · intro control made
      obtain ⟨field, member, rfl⟩ := List.mem_map.1 made
      exact (each field member).2
  · cases found

theorem within_radioGroup? (found : radioGroup? line = some item) : item.Within line := by
  simp only [radioGroup?, Option.bind_eq_bind, Option.bind_eq_some_iff] at found
  obtain ⟨⟨label, list⟩, listed, found⟩ := found
  obtain ⟨labelWithin, listWithin⟩ := Field.subset_of_listed? listed
  split at found
  · cases found
  · rename_i first more options
    cases found
    constructor
    · intro option member
      rw [← options] at member
      exact Text.isEntry_of_mem_entries member
    · intro text held
      rcases List.mem_cons.1 held with rfl | member
      · exact labelWithin
      · rw [← options] at member
        obtain ⟨-, -, -, within⟩ := Text.mem_entries member
        exact List.Subset.trans within listWithin

theorem within_dropdownOptions? (found : dropdownOptions? line = some item) :
    item.Within line := by
  simp only [dropdownOptions?, Option.bind_eq_bind, Option.bind_eq_some_iff] at found
  obtain ⟨⟨label, list⟩, listed, found⟩ := found
  cases found
  obtain ⟨labelWithin, listWithin⟩ := Field.subset_of_listed? listed
  have inside : ∀ inside ∈ some list, inside ⊆ line := by simpa using listWithin
  exact within_control (Field.within_dropdown labelWithin inside)

theorem within_image? (found : image? line = some item) : item.Within line := by
  simp only [image?, Option.bind_eq_bind, Option.bind_eq_some_iff] at found
  obtain ⟨described, opened, ⟨alt, behind⟩, spanned, located, paired, ⟨src, rest⟩, enclosed,
    guarded⟩ := found
  split at guarded
  · cases guarded
    have inside : described ⊆ line := Text.after?_subset opened
    obtain ⟨altWithin, later⟩ := Text.spanTo?_subset spanned
    have srcWithin : src ⊆ behind :=
      List.Subset.trans (Text.upTo?_subset enclosed) (Text.after?_subset paired)
    refine ⟨trivial, ?_⟩
    intro text held
    simp only [texts, List.mem_cons, List.not_mem_nil, or_false] at held
    rcases held with rfl | rfl
    · exact List.Subset.trans altWithin inside
    · exact List.Subset.trans (List.Subset.trans srcWithin later) inside
  · cases guarded

/-- A field without options is described by its label alone. -/
theorem within_bare? {marker : Text} {make : Text → Control}
    (plain : ∀ label, (make label).WellFormed ∧ (make label).texts = [label])
    (found : ((Field.bare? marker line).map fun label => Item.control (make label)) = some item) :
    item.Within line := by
  obtain ⟨label, bare, rfl⟩ := Option.map_eq_some_iff.1 found
  obtain ⟨wellFormed, texts⟩ := plain label
  apply within_control
  refine ⟨wellFormed, ?_⟩
  rw [texts]
  exact List.forall_mem_singleton.2 (Field.subset_of_bare? bare)

/-- Every rule reads well-formed items. -/
theorem within_applyRule {rule : Rule} (filled : line ≠ [])
    (applied : applyRule rule line = .ok (some item)) : item.Within line := by
  cases rule with
  | header => exact within_header? (Except.ok.inj applied)
  | fieldGroup => exact within_fieldGroup? (Except.ok.inj applied)
  | password | textarea | textInput | checkbox =>
      refine within_bare? ?_ (Except.ok.inj applied)
      intro label
      exact ⟨trivial, rfl⟩
  | radioGroup => exact within_radioGroup? (Except.ok.inj applied)
  | dropdownOptions => exact within_dropdownOptions? (Except.ok.inj applied)
  | dropdown =>
      refine within_bare? ?_ (Except.ok.inj applied)
      intro label
      exact ⟨by simp [Control.WellFormed], rfl⟩
  | image => exact within_image? (Except.ok.inj applied)
  | buttonRow =>
      rw [applyRule] at applied
      cases read : Button.row? line with
      | error unreadable =>
          rw [read] at applied
          cases applied
      | ok row =>
          cases row with
          | none =>
              rw [read] at applied
              cases applied
          | some buttons =>
              rw [read] at applied
              cases applied
              obtain ⟨several, within⟩ := Button.within_row? read
              apply within_row
              · rwa [List.length_map]
              · exact .inl (by simp [Control.isButton])
              · simpa using within
  | primaryButton =>
      obtain ⟨button, read, rfl⟩ := Option.map_eq_some_iff.1 (Except.ok.inj applied)
      exact within_control (Button.within_primary? read)
  | outlineButton =>
      obtain ⟨button, read, rfl⟩ := Option.map_eq_some_iff.1 (Except.ok.inj applied)
      exact within_control (Button.within_outline? read)
  | text =>
      cases applied
      exact ⟨Inline.read_ne_nil filled, subset_of_mem_flatMap_read⟩

/-- The rule that decides a line has read what the line is read as. -/
theorem applyRule_ofLine (line : Text) :
    applyRule (ofLine line).1 line = .ok (some (ofLine line).2) := by
  have decided : ∀ rules found, classifyWith rules line = .ok found →
      applyRule found.1 line = .ok (some found.2) := by
    intro rules found classified
    induction rules with
    | nil =>
        cases classified
        rfl
    | cons rule rules ih =>
        rw [classifyWith] at classified
        split at classified
        · cases classified
        · rename_i item applied
          cases classified
          exact applied
        · exact ih classified
  rw [ofLine]
  split
  · rename_i found classified
    exact decided Rule.order found classified
  · rfl

/-- Whatever a line is read as is well-formed and made of its characters. -/
theorem within_ofLine (filled : line ≠ []) : (ofLine line).2.Within line :=
  within_applyRule filled (applyRule_ofLine line)

end Item

end Mockup
