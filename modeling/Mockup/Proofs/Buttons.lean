import Mockup.Proofs.Rules

/-!
# Buttons alone and in a row

A bracket pair on its own line is read by the rules for single buttons, and the pairs of a row by
readers of their own. Both look for an arrow and a screen in the same way, and they agree on a pair
without blanks next to its brackets. With such blanks they can part: a row drops them first, while
the rules for single buttons expect the bracket right behind the screen or the parenthesis.
-/

namespace Mockup.Button

/-- What can stand behind the screen of a button: blanks, then nothing, a bar or a bracket. -/
def Stops (tail : Text) : Prop :=
  ∀ character ∈ (Text.trimStart tail).head?, character = '|' ∨ character = ']'

theorem stops_of_allBlank {tail : Text} (blank : Text.allBlank tail = true) : Stops tail := by
  intro character head
  rw [Text.trimStart_eq_nil_iff.2 blank] at head
  cases head

/-- A screen name does not run into what stops it. -/
theorem Stops.head {tail : Text} (stops : Stops tail) :
    ∀ character ∈ tail.head?,
      Text.isBlank character = true ∨ character = '|' ∨ character = ']' := by
  intro character head
  cases hidden : Text.isBlank character with
  | true => exact .inl rfl
  | false =>
      have visible : Text.trimStart tail = tail := by
        apply Text.trimStart_eq_self
        intro other first
        rw [Option.mem_unique first head]
        exact hidden
      rw [Stops, visible] at stops
      exact .inr (stops character head)

/-- The arrow is found or missed whatever stops the text. -/
theorem Stops.after?_append {tail : Text} (stops : Stops tail) (text : Text) :
    Text.after? arrow (text ++ tail) = (Text.after? arrow text).map (· ++ tail) := by
  apply Text.after?_append_of_not_mem
  intro character head
  rcases stops.head character head with hidden | rfl | rfl
  · intro member
    have shape : ∀ character ∈ arrow, Text.isBlank character = false := by
      simp [arrow, Text.isBlank]
    rw [shape character member] at hidden
    cases hidden
  · decide
  · decide

/-- Where a screen name stops, nothing of it follows. -/
theorem Stops.plain_head {tail : Text} (stops : Stops tail) :
    ∀ character ∈ tail.head?,
      (!Text.isBlank character && character ≠ '|' && character ≠ ']') = false := by
  intro character head
  rcases stops.head character head with hidden | rfl | rfl
  · simp [hidden]
  · rfl
  · rfl

theorem Stops.trimStart {tail : Text} (stops : Stops tail) : Stops (Text.trimStart tail) := by
  rw [Stops, Text.trimStart_eq_self fun _ => Text.head?_trimStart tail]
  exact stops

/-- The screen is the same whatever stops the text. -/
theorem Stops.readTarget?_append {tail : Text} (stops : Stops tail) (text : Text) :
    readTarget? (text ++ tail) =
      (readTarget? text).map fun (target, rest) => (target, rest ++ tail) := by
  have behindBlanks := stops.trimStart
  simp only [readTarget?, Option.bind_eq_bind]
  by_cases blank : Text.trimStart text = []
  · have unled := behindBlanks.after?_append []
    rw [List.nil_append] at unled
    rw [Text.trimStart_blank_append (Text.trimStart_eq_nil_iff.1 blank), unled, blank]
    rfl
  · rw [Text.trimStart_append_of_ne_nil blank, stops.after?_append]
    cases Text.after? arrow (Text.trimStart text) with
    | none => rfl
    | some behind =>
        simp only [Option.map_some, Option.bind_some]
        by_cases unnamed : Text.trimStart behind = []
        · have nothing := Text.takeWhile_append_of_stop [] behindBlanks.plain_head
          rw [List.nil_append, List.takeWhile_nil] at nothing
          rw [Text.trimStart_blank_append (Text.trimStart_eq_nil_iff.1 unnamed), unnamed,
            if_neg (not_not.2 nothing), if_neg (by simp)]
          rfl
        · rw [Text.trimStart_append_of_ne_nil unnamed,
            Text.takeWhile_append_of_stop _ stops.plain_head,
            Text.dropWhile_append_of_stop _ stops.plain_head]
          split
          · rfl
          · rfl

/-- What stands behind the screen is the end of the text. -/
theorem suffix_of_readTarget? {text target rest : Text}
    (read : readTarget? text = some (target, rest)) : rest <:+ text := by
  simp only [readTarget?, Option.bind_eq_bind, Option.bind_eq_some_iff] at read
  obtain ⟨behind, led, named⟩ := read
  split at named
  · cases named
    exact (List.dropWhile_suffix _).trans ((Text.trimStart_suffix behind).trans
      ((Text.suffix_of_after? led).trans (Text.trimStart_suffix text)))
  · cases named

/-- A bracket pair of a row is read like a single button up to its end, where nothing but blanks may
be left. -/
theorem readGroupTail?_eq {text : Text} (openFree : '[' ∉ text) :
    readGroupTail? text =
      if Text.allBlank text then some none
      else (readTarget? text).bind fun (target, rest) =>
        if Text.allBlank rest then some (some target) else none := by
  rw [readGroupTail?]
  split
  · rename_i blank
    rw [if_pos (Text.trimStart_eq_nil_iff.1 blank)]
  · rename_i first others shape
    have visible : ¬Text.allBlank text = true := by
      rw [← Text.trimStart_eq_nil_iff, shape]
      exact List.cons_ne_nil _ _
    rw [if_neg visible, readTarget?, shape]
    cases led : Text.after? arrow (first :: others) with
    | none => rfl
    | some behind =>
        have within : Text.trimStart behind ⊆ text := by
          rw [← shape] at led
          exact Text.trimStart_after?_subset led
        have same : ∀ character ∈ Text.trimStart behind,
            (!Text.isBlank character && !"[]|".toList.contains character) =
              (!Text.isBlank character && character ≠ '|' && character ≠ ']') := by
          intro character member
          have other : character ≠ '[' := fun equal => openFree (equal ▸ within member)
          cases hidden : Text.isBlank character with
          | true => rfl
          | false => simp [other, Bool.and_comm]
        simp only [Option.bind_eq_bind, Option.bind_some, Text.takeWhile_congr same,
          Text.dropWhile_congr same]
        generalize List.takeWhile _ (Text.trimStart behind) = target
        generalize List.dropWhile _ (Text.trimStart behind) = rest
        by_cases named : target = []
        · simp [named]
        · simp [named]

/-- What can stand in a bracket pair of a row. -/
structure Enclosable (inside : Text) : Prop where
  single : '\n' ∉ inside
  openFree : '[' ∉ inside
  closeFree : ']' ∉ inside
  barFree : '|' ∉ inside

theorem Enclosable.of_subset {inside part : Text} (enclosable : Enclosable inside)
    (within : part ⊆ inside) : Enclosable part where
  single := fun member => enclosable.single (within member)
  openFree := fun member => enclosable.openFree (within member)
  closeFree := fun member => enclosable.closeFree (within member)
  barFree := fun member => enclosable.barFree (within member)

/-- A bracket pair. -/
def bracketed (inside : Text) : Text :=
  '[' :: (inside ++ [']'])

theorem stops_bracket : Stops [']'] := by
  rintro character ⟨⟩
  exact .inr rfl

theorem isClosed_append_bracket (text : Text) :
    Text.isClosed [']'] (text ++ [']']) = decide (text = []) := by
  cases text with
  | nil => rfl
  | cons first text => simp [Text.isClosed, List.append_eq_cons_iff]

theorem readClasses?_eq_none {text : Text} (barFree : '|' ∉ text) : readClasses? text = none := by
  rw [readClasses?]
  cases led : Text.after? ['|'] (Text.trimStart text) with
  | none => rfl
  | some behind =>
      have member : '|' ∈ Text.trimStart text := by
        rw [Text.after?_eq_some_iff.1 led]
        exact List.mem_cons_self
      exact absurd (Text.trimStart_subset text member) barFree

/-- The end of a bracket pair reads the same alone and in a row, unless blanks stand in front of
the bracket. -/
theorem readTail?_append_bracket {text : Text} (enclosable : Enclosable text)
    (ended : ∀ character ∈ text.getLast?, Text.isBlank character = false) :
    readTail? (text ++ [']']) = (readGroupTail? text).map fun target => (target, none) := by
  have noClasses : ∀ part, part <:+ text → readClasses? (part ++ [']']) = none := by
    intro part within
    apply readClasses?_eq_none
    simp [(enclosable.of_subset within.subset).barFree]
  rw [readTail?, stops_bracket.readTarget?_append, readGroupTail?_eq enclosable.openFree,
    Text.allBlank_eq ended]
  cases read : readTarget? text with
  | none =>
      simp only [Option.map_none, noClasses text List.suffix_rfl, isClosed_append_bracket]
      by_cases empty : text = []
      · simp [empty]
      · simp [empty]
  | some found =>
      obtain ⟨target, rest⟩ := found
      have within := suffix_of_readTarget? read
      have visible : text ≠ [] := by
        rintro rfl
        cases read
      have endedRest := Text.visible_getLast?_of_suffix within ended
      simp only [Option.map_some, noClasses rest within, isClosed_append_bracket, Option.bind_some,
        Text.allBlank_eq endedRest]
      by_cases empty : rest = []
      · simp [visible, empty]
      · simp [visible, empty]

/-! ## The same button alone and in a row -/

variable {group : Text}

/-- What the rules for single buttons make of a line. -/
def ofLine? (line : Text) : Option Button :=
  (primary? line).or (outline? line)

/-- Wherever the content of a trimmed pair may end, the rest of it reads the same. -/
theorem readTail?_of_suffix (enclosable : Enclosable group) (trimmed : Text.trim group = group)
    {part : Text} (within : part <:+ group) :
    readTail? (part ++ [']']) = (readGroupTail? part).map fun target => (target, none) := by
  apply readTail?_append_bracket (enclosable.of_subset within.subset)
  exact Text.visible_getLast?_of_suffix within (Text.trim_eq_self_iff.1 trimmed).2

theorem primary?_bracketed (enclosable : Enclosable group) (trimmed : Text.trim group = group) :
    primary? (bracketed group) = primaryOfGroup? group := by
  have visible := (Text.trim_eq_self_iff.1 trimmed).1
  have opened : Text.after? ['[', '('] (bracketed group) =
      (Text.after? ['('] group).map (· ++ [']']) := by
    apply Text.after?_append_of_not_mem
    rintro character ⟨⟩
    decide
  rw [primary?, primaryOfGroup?, opened, Text.trimStart_eq_self visible]
  cases led : Text.after? ['('] group with
  | none => rfl
  | some inner =>
      have agree : ∀ part, part <:+ inner →
          (Text.after? [')'] (part ++ [']'])).bind readTail? =
            ((Text.after? [')'] part).bind readGroupTail?).map fun target => (target, none) := by
        intro part inside
        have parenthesis : ∀ character ∈ [']'].head?, character ∉ [')'] := by
          rintro character ⟨⟩
          decide
        apply Text.after?_bind_append parenthesis
        intro rest behind
        have within := behind.trans (inside.trans (Text.suffix_of_after? led))
        exact readTail?_of_suffix enclosable trimmed within
      simp only [Option.map_some, Option.bind_eq_bind, Option.bind_some]
      rw [Text.until?_append_tail agree (fun _ => rfl)]
      cases Text.until? (fun text => (Text.after? [')'] text).bind readGroupTail?) inner with
      | none => rfl
      | some found => rfl

/-- On one line, the content of an outlined button reaches to the first place where a bracket pair
can end. -/
theorem outlineOfGroup?_eq_map (single : '\n' ∉ group) (visible : Text.trimStart group ≠ []) :
    outlineOfGroup? group =
      (Text.until? readGroupTail? (Text.trimStart group)).map fun (content, target) =>
        ⟨Text.trim content, .outline, none, target⟩ := by
  have cut : (Text.until? readGroupTail? (Text.trimStart group)).isSome :=
    Text.until?_isSome visible rfl
  obtain ⟨⟨content, target⟩, found⟩ := Option.isSome_iff_exists.1 cut
  have fits : '\n' ∉ content := fun member =>
    single (Text.trimStart_subset group ((Text.until?_subset found).1 member))
  rw [outlineOfGroup?, found, Option.filter_some, if_pos (Text.oneLine_iff.2 fits)]
  rfl

theorem outline?_bracketed (enclosable : Enclosable group) (trimmed : Text.trim group = group)
    (nonempty : group ≠ []) : outline? (bracketed group) = outlineOfGroup? group := by
  have visible := (Text.trim_eq_self_iff.1 trimmed).1
  have opened : Text.after? ['['] (bracketed group) = some (group ++ [']']) :=
    Text.after?_append ['['] _
  have cut : (Text.until? readGroupTail? group).isSome := Text.until?_isSome nonempty rfl
  obtain ⟨⟨content, target⟩, found⟩ := Option.isSome_iff_exists.1 cut
  have ends : Text.until? readGroupTail? group = none → Text.until? readTail? [']'] = none := by
    rw [found]
    exact nofun
  have agree : ∀ part, part <:+ group → readTail? (part ++ [']']) =
      (readGroupTail? part).map fun target => (target, none) := fun part =>
    readTail?_of_suffix enclosable trimmed
  have barFree := (enclosable.of_subset (Text.until?_subset found).1).barFree
  rw [outlineOfGroup?_eq_map enclosable.single (by rwa [Text.trimStart_eq_self visible]), outline?,
    opened, Text.trimStart_eq_self visible, found]
  simp [Text.until?_append_tail agree ends, found, barFree]

/-- Blanks in front of the closing bracket mean nothing in a row. -/
theorem readGroupTail?_append_blank {text blanks : Text} (openFree : '[' ∉ text)
    (blank : Text.allBlank blanks = true) :
    readGroupTail? (text ++ blanks) = readGroupTail? text := by
  have bracket : '[' ∉ blanks := Text.not_mem_of_allBlank blank (by decide)
  have allBlank : ∀ front, Text.allBlank (front ++ blanks) = Text.allBlank front := by
    intro front
    rw [Text.allBlank, List.all_append, ← Text.allBlank, ← Text.allBlank, blank, Bool.and_true]
  rw [readGroupTail?_eq openFree, readGroupTail?_eq (List.not_mem_append openFree bracket),
    allBlank, (stops_of_allBlank blank).readTarget?_append]
  cases readTarget? text with
  | none => rfl
  | some found => simp [allBlank]

/-- A button in a row is the same with blanks next to its brackets and without. -/
theorem primaryOfGroup?_trim (openFree : '[' ∉ group) :
    primaryOfGroup? (Text.trim group) = primaryOfGroup? group := by
  obtain ⟨blanks, blank, whole⟩ := Text.exists_trimStart_eq group
  have visible := (Text.trim_eq_self_iff.1 (Text.trim_trim group)).1
  have opening : ∀ character ∈ blanks.head?, character ∉ ['('] :=
    Text.head?_not_mem_of_allBlank blank (List.forall_mem_singleton.2 (by decide))
  have closing : ∀ character ∈ blanks.head?, character ∉ [')'] :=
    Text.head?_not_mem_of_allBlank blank (List.forall_mem_singleton.2 (by decide))
  rw [primaryOfGroup?, primaryOfGroup?, whole, Text.trimStart_eq_self visible,
    Text.after?_append_of_not_mem opening]
  cases led : Text.after? ['('] (Text.trim group) with
  | none => rfl
  | some inner =>
      have within : inner ⊆ group :=
        List.Subset.trans (Text.after?_subset led) (Text.trim_subset group)
      have agree : ∀ part, part <:+ inner →
          (Text.after? [')'] (part ++ blanks)).bind readGroupTail? =
            ((Text.after? [')'] part).bind readGroupTail?).map id := by
        intro part inside
        apply Text.after?_bind_append closing
        intro rest behind
        have bracket : '[' ∉ rest := fun member =>
          openFree (within (inside.subset (behind.subset member)))
        rw [readGroupTail?_append_blank bracket blank, Option.map_id, id_eq]
      have ends : Text.until? (fun text => (Text.after? [')'] text).bind readGroupTail?) blanks =
          none := by
        rw [Option.eq_none_iff_forall_ne_some]
        intro found cut
        obtain ⟨-, rest, shape, success⟩ := Text.until?_eq_some cut
        obtain ⟨behind, closed, -⟩ := Option.bind_eq_some_iff.1 success
        apply Text.not_mem_of_allBlank blank (by decide : Text.isBlank ')' = false)
        simp [shape, Text.after?_eq_some_iff.1 closed]
      simp [Text.until?_append_tail agree fun _ => ends]

theorem outlineOfGroup?_trim (openFree : '[' ∉ group) (single : '\n' ∉ group)
    (visible : Text.trim group ≠ []) :
    outlineOfGroup? (Text.trim group) = outlineOfGroup? group := by
  obtain ⟨blanks, blank, whole⟩ := Text.exists_trimStart_eq group
  have start := (Text.trim_eq_self_iff.1 (Text.trim_trim group)).1
  have agree : ∀ part, part <:+ Text.trim group →
      readGroupTail? (part ++ blanks) = (readGroupTail? part).map id := by
    intro part within
    have bracket : '[' ∉ part := fun member =>
      openFree (Text.trim_subset group (within.subset member))
    rw [readGroupTail?_append_blank bracket blank, Option.map_id, id_eq]
  have ends : Text.until? readGroupTail? (Text.trim group) = none →
      Text.until? readGroupTail? blanks = none := by
    intro failed
    have cut : (Text.until? readGroupTail? (Text.trim group)).isSome :=
      Text.until?_isSome visible rfl
    rw [failed] at cut
    cases cut
  have onLine : '\n' ∉ Text.trim group := fun member => single (Text.trim_subset group member)
  have behindBlanks : Text.trimStart group ≠ [] := by simp [whole, visible]
  rw [outlineOfGroup?_eq_map single behindBlanks,
    outlineOfGroup?_eq_map onLine (by rwa [Text.trimStart_eq_self start]), whole,
    Text.trimStart_eq_self start, Text.until?_append_tail agree ends]
  simp

/-- A bracket pair is read up to its closing bracket. -/
theorem readGroups?_inside {inside : Text} (enclosable : Enclosable inside) (latest : Char)
    (earlier rest : Text) :
    readGroups? (some (latest :: earlier)) (inside ++ ']' :: rest) =
      (readGroups? none rest).map (((latest :: earlier).reverse ++ inside) :: ·) := by
  induction inside generalizing latest earlier with
  | nil => simp [readGroups?]
  | cons character inside ih =>
      have behind := enclosable.of_subset (List.subset_cons_self _ _)
      have later := ih behind character (latest :: earlier)
      have closing : character ≠ ']' := (List.ne_of_not_mem_cons enclosable.closeFree).symm
      have opening : character ≠ '[' := (List.ne_of_not_mem_cons enclosable.openFree).symm
      have bar : character ≠ '|' := (List.ne_of_not_mem_cons enclosable.barFree).symm
      rw [List.cons_append, readGroups?, if_neg closing, if_neg (by simp [opening, bar]), later]
      simp

/-- The first bracket pair of a line is read if it holds something. -/
theorem readGroups?_bracketed {inside : Text} (enclosable : Enclosable inside) (rest : Text) :
    readGroups? none (bracketed inside ++ rest) =
      if inside = [] then none else (readGroups? none rest).map (inside :: ·) := by
  have start : readGroups? none (bracketed inside ++ rest) =
      readGroups? (some []) (inside ++ ']' :: rest) := by
    simp [bracketed, readGroups?, Text.isBlank]
  rw [start]
  cases inside with
  | nil => simp [readGroups?]
  | cons first inside =>
      have bracket : ¬"[]|".toList.contains first = true := by
        have closing := (List.ne_of_not_mem_cons enclosable.closeFree).symm
        have opening := (List.ne_of_not_mem_cons enclosable.openFree).symm
        have bar := (List.ne_of_not_mem_cons enclosable.barFree).symm
        simp [closing, opening, bar]
      have behind := enclosable.of_subset (List.subset_cons_self _ _)
      have later := readGroups?_inside behind first [] rest
      rw [List.cons_append, readGroups?, if_neg bracket, later, if_neg (List.cons_ne_nil _ _)]
      rfl

/-- Blanks between two bracket pairs are skipped. -/
theorem readGroups?_blank_append {blanks : Text} (blank : Text.allBlank blanks = true)
    (rest : Text) : readGroups? none (blanks ++ rest) = readGroups? none rest := by
  induction blanks with
  | nil => rfl
  | cons character blanks ih =>
      simp only [Text.allBlank, List.all_cons, Bool.and_eq_true] at blank
      rw [List.cons_append, readGroups?, if_pos blank.1]
      exact ih blank.2

/-- A line with a bar is no row. -/
theorem readGroups?_eq_none {inside : Option Text} {text : Text} (bar : '|' ∈ text) :
    readGroups? inside text = none := by
  fun_induction readGroups? inside text with
  | case1 => cases bar
  | case2 => rfl
  | case3 character rest blank ih =>
      have other : '|' ≠ character := by
        rintro rfl
        revert blank
        decide
      exact ih (List.mem_of_ne_of_mem other bar)
  | case4 rest visible ih => exact ih (List.mem_of_ne_of_mem (by decide) bar)
  | case5 => rfl
  | case6 => rfl
  | case7 character rest plain ih =>
      have other : '|' ≠ character := by
        rintro rfl
        exact plain rfl
      exact ih (List.mem_of_ne_of_mem other bar)
  | case8 latest earlier rest ih =>
      rw [ih (List.mem_of_ne_of_mem (by decide) bar), Option.map_none]
  | case9 => rfl
  | case10 latest earlier character rest unclosed plain ih =>
      have other : '|' ≠ character := by
        rintro rfl
        exact plain rfl
      exact ih (List.mem_of_ne_of_mem other bar)

/-- Two bracket pairs next to each other are a row if both hold something. -/
theorem rowGroups?_append {next : Text} (first : Enclosable group) (second : Enclosable next) :
    rowGroups? (bracketed group ++ bracketed next) =
      if group = [] ∨ next = [] then none else some [group, next] := by
  have last : readGroups? none (bracketed next) = if next = [] then none else some [next] := by
    have read := readGroups?_bracketed second []
    rwa [List.append_nil] at read
  have opened : (bracketed group ++ bracketed next).head? = some '[' := rfl
  rw [rowGroups?, if_pos opened, readGroups?_bracketed first, last]
  by_cases here : group = []
  · simp [here]
  · by_cases there : next = []
    · simp [there]
    · simp [here, there]

theorem ofGroup_eq_ok_iff {button : Button} :
    ofGroup group = .ok button ↔
      (primaryOfGroup? group).or (outlineOfGroup? group) = some button := by
  rw [ofGroup]
  cases (primaryOfGroup? group).or (outlineOfGroup? group) with
  | none => simp
  | some other => simp

/-- In a row a bracket pair is the button that it is alone without the blanks next to its
brackets. -/
theorem ofGroup_eq_ok_iff_ofLine? {button : Button} (enclosable : Enclosable group)
    (visible : Text.trim group ≠ []) :
    ofGroup group = .ok button ↔ ofLine? (bracketed (Text.trim group)) = some button := by
  have inner := enclosable.of_subset (Text.trim_subset group)
  have trimmed := Text.trim_trim group
  rw [ofGroup_eq_ok_iff, ofLine?, primary?_bracketed inner trimmed,
    outline?_bracketed inner trimmed visible, primaryOfGroup?_trim enclosable.openFree,
    outlineOfGroup?_trim enclosable.openFree enclosable.single visible]

/-- The first child of a row of two is the button that its bracket pair stands for. -/
theorem ofGroup_of_classify {next : Text} {row : Item} (first : Enclosable group)
    (second : Enclosable next)
    (inRow : Item.classify (bracketed group ++ bracketed next) = .ok (.buttonRow, row)) :
    ∃ button other, row = .row [.button button, .button other] ∧ ofGroup group = .ok button := by
  have ruled : Rule.buttonRow ≠ .text := nofun
  obtain ⟨-, applied⟩ := Item.applied_of_classify ruled inRow
  rw [Item.applyRule, row?, rowGroups?_append first second] at applied
  split at applied
  · cases applied
  · rename_i groups found
    split at found
    · cases found
    · cases found
      rw [List.mapM_cons, List.mapM_cons, List.mapM_nil] at applied
      cases here : ofGroup group with
      | error unreadable =>
          rw [here] at applied
          cases applied
      | ok button =>
          cases there : ofGroup next with
          | error unreadable =>
              rw [here, there] at applied
              cases applied
          | ok other =>
              rw [here, there] at applied
              cases applied
              exact ⟨button, other, rfl, rfl⟩

/-- A line that a rule for single buttons decides is the button that these rules make of it. -/
theorem ofLine?_of_classify {line : Text} {rule : Rule} {item : Item}
    (single : rule = .primaryButton ∨ rule = .outlineButton)
    (alone : Item.classify line = .ok (rule, item)) :
    ∃ button, item = .control (.button button) ∧ ofLine? line = some button := by
  have ruled : rule ≠ .text := by
    rcases single with rfl | rfl
    · exact nofun
    · exact nofun
  obtain ⟨skipped, applied⟩ := Item.applied_of_classify ruled alone
  rcases single with rfl | rfl
  · rw [Item.applyRule, Except.ok.injEq, Option.map_eq_some_iff] at applied
    obtain ⟨button, read, rfl⟩ := applied
    exact ⟨button, rfl, by rw [ofLine?, read, Option.some_or]⟩
  · rw [Item.applyRule, Except.ok.injEq, Option.map_eq_some_iff] at applied
    obtain ⟨button, read, rfl⟩ := applied
    have primary : primary? line = none := by
      have before := skipped .primaryButton (by decide)
      rwa [Item.applyRule, Except.ok.injEq, Option.map_eq_none_iff] at before
    exact ⟨button, rfl, by rw [ofLine?, primary, Option.none_or, read]⟩

/-- A button without blanks next to its brackets means the same alone and in a row. With such blanks
a row shows what stands alone without them. -/
theorem head_of_row_eq_alone {next : Text} {rule : Rule} {item row : Item}
    (first : Enclosable group) (second : Enclosable next)
    (single : rule = .primaryButton ∨ rule = .outlineButton)
    (alone : Item.classify (bracketed group) = .ok (rule, item))
    (inRow : Item.classify (bracketed group ++ bracketed next) = .ok (.buttonRow, row)) :
    ∃ button other, row = .row [.button button, .button other] ∧
      (Text.trim group ≠ [] → ofLine? (bracketed (Text.trim group)) = some button) ∧
      (Text.trim group = group → item = .control (.button button)) := by
  obtain ⟨button, other, rfl, read⟩ := ofGroup_of_classify first second inRow
  refine ⟨button, other, rfl, fun visible => ?_, fun trimmed => ?_⟩
  · exact (ofGroup_eq_ok_iff_ofLine? first visible).1 read
  · obtain ⟨same, rfl, decided⟩ := ofLine?_of_classify single alone
    have visible : Text.trim group ≠ [] := by
      rw [trimmed]
      rintro rfl
      cases decided
    have again := (ofGroup_eq_ok_iff_ofLine? first visible).1 read
    rw [trimmed, decided] at again
    cases again
    rfl

/-- A primary button that leads to a screen. -/
def sample : Button :=
  ⟨"a".toList, .primary, none, some "b".toList⟩

/-- An outlined button beside it. -/
def sampleNext : Button :=
  ⟨"c".toList, .outline, none, none⟩

/-- The primary button is the same alone and beside the other one. -/
theorem head_of_row_eq_alone_sample :
    Enclosable "(a) ->b".toList ∧ Enclosable "c ".toList ∧
      Item.classify "[(a) ->b]".toList = .ok (.primaryButton, .control (.button sample)) ∧
      Item.classify "[(a) ->b][c ]".toList =
        .ok (.buttonRow, .row [.button sample, .button sampleNext]) ∧
      ∃ button other,
        Item.row [.button sample, .button sampleNext] = .row [.button button, .button other] ∧
        ofLine? "[(a) ->b]".toList = some button ∧
        Item.control (.button sample) = .control (.button button) := by
  have first : Enclosable "(a) ->b".toList := ⟨by decide, by decide, by decide, by decide⟩
  have second : Enclosable "c ".toList := ⟨by decide, by decide, by decide, by decide⟩
  have alone : Item.classify "[(a) ->b]".toList =
      .ok (.primaryButton, .control (.button sample)) := by
    rw [Item.classify_of_bracket (by decide) rfl]
    rfl
  have inRow : Item.classify "[(a) ->b][c ]".toList =
      .ok (.buttonRow, .row [.button sample, .button sampleNext]) := by
    rw [Item.classify_of_bracket (by decide) rfl]
    rfl
  obtain ⟨button, other, shape, stripped, same⟩ :=
    head_of_row_eq_alone first second (.inl rfl) alone inRow
  exact ⟨first, second, alone, inRow, button, other, shape, stripped (by decide), same rfl⟩

/-- With a blank in front of the bracket the arrow is part of the content when the button stands
alone, and leads to a screen in a row. -/
theorem head_of_row_ne_alone_of_blank :
    ¬∀ (group next : Text) (rule : Rule) (item row : Item), Enclosable group → Enclosable next →
      (rule = .primaryButton ∨ rule = .outlineButton) →
      Item.classify (bracketed group) = .ok (rule, item) →
      Item.classify (bracketed group ++ bracketed next) = .ok (.buttonRow, row) →
      ∃ button others,
        row = .row (.button button :: others) ∧ item = .control (.button button) := by
  intro same
  have first : Enclosable "a -> b ".toList := ⟨by decide, by decide, by decide, by decide⟩
  have second : Enclosable "c".toList := ⟨by decide, by decide, by decide, by decide⟩
  have alone : Item.classify "[a -> b ]".toList =
      .ok (.outlineButton, .control (.button ⟨"a -> b".toList, .outline, none, none⟩)) := by
    rw [Item.classify_of_bracket (by decide) rfl]
    rfl
  have inRow : Item.classify "[a -> b ][c]".toList =
      .ok (.buttonRow, .row [.button ⟨"a".toList, .outline, none, some "b".toList⟩,
        .button ⟨"c".toList, .outline, none, none⟩]) := by
    rw [Item.classify_of_bracket (by decide) rfl]
    rfl
  obtain ⟨button, others, shape, equal⟩ := same _ _ _ _ _ first second (.inr rfl) alone inRow
  cases shape
  simp at equal

end Mockup.Button
