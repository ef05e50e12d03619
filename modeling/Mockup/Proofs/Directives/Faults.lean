import Mockup.Proofs.Directives.Grammar
import Mockup.Proofs.Text.Cut

/-!
# Where directives go wrong

A text that is no text of directives goes wrong at one place. Everything in front of that place can
still be continued to a text of directives, and with the character at that place it no longer can;
or all of the text can be continued, but it ends where the value of a setting is missing. This place
is the one that is reported. Two facts about tokens carry that: any word may stand behind the tokens
in front of a fault, and whatever follows a fault makes no difference.
-/

namespace Mockup.Directives

variable {position : Position} {text front rest : Text} {tokens good more : List Token}
variable {bad : Token} {character : Char} {fault : DirectiveError}
variable {directives : Directives} {entries : List Entry}

/-- What is reported about a token that stands where it may not. -/
def Token.fault? : Token → Option DirectiveError
  | .word .. => none
  | .equals position => some (.misplacedEquals position)
  | .stray position => some (.strayBlank position)

/-- Tokens behind which any word may stand. -/
def Open (tokens : List Token) : Prop :=
  ∀ content place, ∃ entries, Forms (tokens ++ [.word content place]) entries

theorem Open.word (content : Text) (place : Position) (isOpen : Open tokens) :
    Open (.word content place :: tokens) := by
  intro last lastPlace
  obtain ⟨entries, forms⟩ := isOpen last lastPlace
  exact ⟨.word content :: entries, .word forms⟩

theorem Open.setting (key value : Text) (keyPlace equalsPlace valuePlace : Position)
    (isOpen : Open tokens) :
    Open (.word key keyPlace :: .equals equalsPlace :: .word value valuePlace :: tokens) := by
  intro last lastPlace
  obtain ⟨entries, forms⟩ := isOpen last lastPlace
  exact ⟨.setting key value :: entries, .setting forms⟩

theorem open_nil : Open [] := fun content _ => ⟨[.word content], .word .nil⟩

theorem open_assignment (key : Text) (keyPlace equalsPlace : Position) :
    Open [.word key keyPlace, .equals equalsPlace] :=
  fun value _ => ⟨[.setting key value], .setting .nil⟩

/-- How tokens fail to be added. -/
inductive Failure (directives : Directives) : List Token → DirectiveError → Prop where
  /-- At a token that is refused whatever follows it. -/
  | blocked {good : List Token} {bad : Token} {fault : DirectiveError} (more : List Token) :
      Open good → bad.fault? = some fault →
      (∀ others, addTokens directives (good ++ bad :: others) = .error fault) →
      Failure directives (good ++ bad :: more) fault
  /-- At the end, where the value of a setting is missing. -/
  | unfinished (good : List Token) (position : Position) :
      Open (good ++ [.equals position]) →
      Failure directives (good ++ [.equals position]) (.misplacedEquals position)

theorem Failure.setting {key value : Text} {keyPlace equalsPlace valuePlace : Position}
    (failure : Failure (directives.add (.setting key value)) tokens fault) :
    Failure directives
      (.word key keyPlace :: .equals equalsPlace :: .word value valuePlace :: tokens) fault := by
  cases failure with
  | blocked more isOpen faulty refused =>
      exact .blocked more (isOpen.setting key value keyPlace equalsPlace valuePlace) faulty refused
  | unfinished good position isOpen =>
      exact .unfinished (_ :: _ :: _ :: good) position
        (isOpen.setting key value keyPlace equalsPlace valuePlace)

theorem Failure.word {content : Text} {place : Position}
    (unset : ∀ token ∈ tokens.head?, ∀ position, token ≠ .equals position)
    (failure : Failure (directives.add (.word content)) tokens fault) :
    Failure directives (.word content place :: tokens) fault := by
  cases failure with
  | @blocked good bad fault more isOpen faulty refused =>
      refine .blocked more (isOpen.word content place) faulty fun others => ?_
      have unsetToo : ∀ token ∈ (good ++ bad :: others).head?, ∀ position,
          token ≠ .equals position := by
        cases good <;> exact unset
      rw [List.cons_append, addTokens_word content place unsetToo]
      exact refused others
  | unfinished good position isOpen =>
      exact .unfinished (_ :: good) position (isOpen.word content place)

theorem failure_of_addTokens (failed : addTokens directives tokens = .error fault) :
    Failure directives tokens fault := by
  fun_induction addTokens directives tokens with
  | case1 => cases failed
  | case2 directives key keyPlace equalsPlace value valuePlace rest ih => exact (ih failed).setting
  | case3 directives key keyPlace equalsPlace position rest =>
      cases failed
      exact .blocked rest (open_assignment key keyPlace equalsPlace) rfl fun _ => rfl
  | case4 directives key keyPlace equalsPlace position rest =>
      cases failed
      exact .blocked rest (open_assignment key keyPlace equalsPlace) rfl fun _ => rfl
  | case5 directives key keyPlace position =>
      cases failed
      exact .unfinished [.word key keyPlace] position (open_assignment key keyPlace position)
  | case6 directives content place rest setting equals stray ending ih =>
      refine (ih failed).word ?_
      rintro token first position rfl
      obtain ⟨later, rfl⟩ := List.head?_eq_some_iff.1 first
      cases later with
      | nil => exact ending position rfl
      | cons next more =>
          cases next with
          | word value valuePlace => exact setting position value valuePlace more rfl
          | equals again => exact equals position again more rfl
          | stray blank => exact stray position blank more rfl
  | case7 directives position rest =>
      cases failed
      exact .blocked rest open_nil rfl fun _ => rfl
  | case8 directives position rest =>
      cases failed
      exact .blocked rest open_nil rfl fun _ => rfl

theorem Forms.stray_not_mem (forms : Forms tokens entries) (position : Position) :
    .stray position ∉ tokens := by
  induction forms with
  | nil => simp
  | word _ ih => simpa using ih
  | setting _ ih => simpa using ih

theorem Open.stray_not_mem (isOpen : Open tokens) (position : Position) :
    .stray position ∉ tokens := by
  obtain ⟨entries, forms⟩ := isOpen [] position
  intro member
  exact forms.stray_not_mem position (List.mem_append_left _ member)

/-- A character that is a token of its own. -/
inductive Single : Char → Position → Token → Prop where
  | equals (position : Position) : Single '=' position (.equals position)
  | stray {character : Char} (position : Position) :
      Text.isBlank character = true → isSeparator character = false →
      Single character position (.stray position)

/-- What is reported about a character that stands where it may not. -/
def refusal (character : Char) (position : Position) : DirectiveError :=
  if character = '=' then .misplacedEquals position else .strayBlank position

theorem Single.stops (single : Single character position bad) (rest : Text) :
    Stops (character :: rest) := by
  rintro first ⟨⟩
  cases single with
  | equals => exact .inl rfl
  | stray _ blank => exact .inr blank

theorem Single.fault?_eq (single : Single character position bad) :
    bad.fault? = some (refusal character position) := by
  cases single with
  | equals => rfl
  | stray _ blank => rw [refusal, if_neg (ne_equals_of_isBlank blank)]; rfl

theorem Single.exists_cut (single : Single character position bad) (rest : Text) :
    ∃ others, Cut position (character :: rest) (bad :: others) := by
  cases single with
  | equals => exact ⟨_, .equals (cut_scan _ rest)⟩
  | stray _ blank stray => exact ⟨[], .stray blank stray⟩

/-- A token that may be refused is a character of the text. -/
theorem Cut.split (cut : Cut position text (good ++ bad :: more))
    (faulty : bad.fault? = some fault) :
    ∃ front character rest, text = front ++ character :: rest ∧ Cut position front good ∧
      Single character (front.foldl Position.advance position) bad ∧
      ∀ place, bad = .equals place → Cut (place.advance character) rest more := by
  generalize whole : good ++ bad :: more = tokens at cut
  induction cut generalizing good with
  | nil => cases good <;> cases whole
  | separator separator _ ih =>
      obtain ⟨front, character, rest, rfl, before, single, after⟩ := ih whole
      exact ⟨_ :: front, character, rest, rfl, .separator separator before, single, after⟩
  | @equals position rest tokens behind ih =>
      cases good with
      | nil =>
          cases whole
          exact ⟨[], '=', rest, rfl, .nil position, .equals position, fun _ same => by
            cases same; exact behind⟩
      | cons token good =>
          cases whole
          obtain ⟨front, character, rest, rfl, before, single, after⟩ := ih rfl
          exact ⟨'=' :: front, character, rest, rfl, .equals before, single, after⟩
  | @word position word rest tokens nonempty plain stops behind ih =>
      cases good with
      | nil =>
          cases whole
          cases faulty
      | cons token good =>
          cases whole
          obtain ⟨front, character, rest, rfl, before, single, after⟩ := ih rfl
          have stopsFront : Stops front := by
            cases front with
            | nil => simp [Stops]
            | cons first front => exact stops
          refine ⟨word ++ front, character, rest, by simp, .word nonempty plain stopsFront before,
            ?_, after⟩
          rwa [List.foldl_append]
  | @stray position character rest blank stray =>
      cases good with
      | nil =>
          cases whole
          exact ⟨[], character, rest, rfl, .nil position, .stray position blank stray,
            fun _ same => by cases same⟩
      | cons token good => cases good <;> cases whole

/-! ## Texts -/

/-- A text that can be continued to a text of directives. -/
def Viable (front : Text) : Prop :=
  ∃ rest entries, Spells (front ++ rest) entries

/-- A text can be continued if any word may stand behind its tokens. -/
theorem viable_of_open (cut : Cut .start front tokens) (isOpen : Open tokens) : Viable front := by
  have stops : Stops " x".toList := by
    rintro character ⟨⟩
    exact .inr rfl
  have continued := cut.append isOpen.stray_not_mem stops (cut_scan _ _)
  obtain ⟨entries, forms⟩ := isOpen ['x'] _
  exact ⟨" x".toList, entries, _, continued, forms⟩

/-- A text cannot be continued behind a token that is refused whatever follows it. -/
theorem not_viable_of_refused (cut : Cut .start front good) (isOpen : Open good)
    (single : Single character (front.foldl Position.advance .start) bad)
    (refused : ∀ others, addTokens empty (good ++ bad :: others) = .error fault) :
    ¬Viable (front ++ [character]) := by
  rintro ⟨rest, entries, spells⟩
  obtain ⟨others, behind⟩ := single.exists_cut rest
  have whole : Cut .start (front ++ character :: rest) (good ++ bad :: others) :=
    cut.append isOpen.stray_not_mem (single.stops rest) behind
  have accepted := read_of_spells spells
  rw [List.append_assoc, List.singleton_append, read, tokens, scan_of_cut whole,
    refused] at accepted
  cases accepted

/-- What is reported about a text that is refused: the first character with which it can no longer
be continued to a text of directives, or else the equals sign at its end, up to separators, behind
which the value of a setting is missing. -/
inductive Faulty (text : Text) : DirectiveError → Prop where
  | blocked (front : Text) (character : Char) (rest : Text) :
      text = front ++ character :: rest → Viable front → ¬Viable (front ++ [character]) →
      Faulty text (refusal character (.behind front))
  | unfinished (front gap : Text) :
      text = front ++ '=' :: gap → (∀ character ∈ gap, isSeparator character = true) →
      Viable text → Faulty text (.misplacedEquals (.behind front))

theorem faulty_of_read (failed : read text = .error fault) : Faulty text fault := by
  have cut : Cut .start text (tokens text) := cut_scan .start text
  have failure : Failure empty (tokens text) fault := failure_of_addTokens failed
  generalize tokens text = found at cut failure
  cases failure with
  | @blocked good bad _ more isOpen faulty refused =>
      obtain ⟨front, character, rest, rfl, before, single, -⟩ := cut.split faulty
      obtain rfl : refusal character _ = fault :=
        Option.some.inj (single.fault?_eq.symm.trans faulty)
      rw [Position.foldl_advance_start]
      exact .blocked front character rest rfl (viable_of_open before isOpen)
        (not_viable_of_refused before isOpen single refused)
  | unfinished good position isOpen =>
      obtain ⟨front, character, rest, rfl, before, single, after⟩ := cut.split rfl
      have gap := (after position rfl).eq_nil_iff.1 rfl
      have viable := viable_of_open cut isOpen
      cases single with
      | equals =>
          rw [Position.foldl_advance_start]
          exact .unfinished front rest rfl gap viable

theorem Viable.of_append (viable : Viable (front ++ rest)) : Viable front := by
  obtain ⟨more, entries, spells⟩ := viable
  exact ⟨rest ++ more, entries, by rwa [← List.append_assoc]⟩

theorem Viable.of_lead (viable : Viable text) (lead : front <+: text) : Viable front := by
  obtain ⟨rest, rfl⟩ := lead
  exact viable.of_append

theorem viable_of_spells (spells : Spells text entries) : Viable text :=
  ⟨[], entries, by rwa [List.append_nil]⟩

theorem equals_not_mem_of_separators {gap : Text}
    (separators : ∀ character ∈ gap, isSeparator character = true) : '=' ∉ gap := by
  intro member
  exact (separator_cases (separators '=' member)).1 rfl

/-- What can be continued ends in front of the character with which a text cannot be. -/
theorem Viable.lead_of_stuck {other : Text} (viable : Viable other) (within : other <+: text)
    (whole : text = front ++ character :: rest) (stuck : ¬Viable (front ++ [character])) :
    other <+: front := by
  have lead : front ++ [character] <+: text := ⟨rest, by simp [whole]⟩
  rcases List.prefix_or_prefix_of_prefix lead within with longer | shorter
  · exact absurd (viable.of_lead longer) stuck
  · rcases List.prefix_concat_iff.1 shorter with rfl | shorter
    · exact absurd viable stuck
    · exact shorter

/-- There is one place at which a text goes wrong. -/
theorem Faulty.unique {other : DirectiveError} (first : Faulty text fault)
    (second : Faulty text other) : fault = other := by
  cases first with
  | blocked front character rest whole viable stuck =>
      cases second with
      | blocked front' character' rest' whole' viable' stuck' =>
          have shorter := viable'.lead_of_stuck ⟨_, whole'.symm⟩ whole stuck
          have longer := viable.lead_of_stuck ⟨_, whole.symm⟩ whole' stuck'
          obtain rfl := longer.eq_of_length_le shorter.length_le
          obtain ⟨rfl, rfl⟩ := List.cons.inj (List.append_cancel_left (whole.symm.trans whole'))
          rfl
      | unfinished front' gap whole' separators viable' =>
          exact absurd (viable'.of_lead ⟨rest, by simp [whole]⟩) stuck
  | unfinished front gap whole separators viable =>
      cases second with
      | blocked front' character rest whole' viable' stuck =>
          exact absurd (viable.of_lead ⟨rest, by simp [whole']⟩) stuck
      | unfinished front' gap' whole' separators' viable' =>
          obtain ⟨rfl, rfl⟩ := (Text.append_cons_inj_right (equals_not_mem_of_separators separators)
            (equals_not_mem_of_separators separators')).1 (whole.symm.trans whole')
          rfl

/-- A sequence of words and settings ends with a word. -/
theorem Forms.fault?_last (forms : Forms (good ++ [bad]) entries) : bad.fault? = none := by
  generalize whole : good ++ [bad] = tokens at forms
  induction forms generalizing good with
  | nil => cases good <;> cases whole
  | word _ ih =>
      cases good with
      | nil => cases whole; rfl
      | cons token good => exact ih (List.cons.inj whole).2
  | setting _ ih =>
      match good, whole with
      | [], whole => cases whole
      | [_], whole => cases whole
      | [_, _], whole => cases whole; rfl
      | _ :: _ :: _ :: good, whole =>
          simp only [List.cons_append, List.cons.injEq] at whole
          exact ih whole.2.2.2

/-- A text with an equals sign at its end, up to separators, does not end with a word. -/
theorem Cut.exists_last {gap : Text} (cut : Cut position (front ++ '=' :: gap) tokens)
    (separators : ∀ character ∈ gap, isSeparator character = true) :
    ∃ good bad, tokens = good ++ [bad] ∧ bad.fault? ≠ none := by
  generalize whole : front ++ '=' :: gap = text at cut
  induction cut generalizing front with
  | nil => cases front <;> cases whole
  | separator separator _ ih =>
      cases front with
      | nil =>
          cases whole
          exact absurd rfl (separator_cases separator).1
      | cons character front => exact ih (List.cons.inj whole).2
  | @equals position rest tokens behind ih =>
      cases front with
      | nil =>
          cases whole
          obtain rfl := behind.eq_nil_iff.2 separators
          exact ⟨[], .equals position, rfl, by simp [Token.fault?]⟩
      | cons character front =>
          obtain ⟨good, bad, rfl, faulty⟩ := ih (List.cons.inj whole).2
          exact ⟨_ :: good, bad, rfl, faulty⟩
  | @word position word rest tokens nonempty plain stops behind ih =>
      have free : '=' ∉ word := fun member => (plain '=' member).1 rfl
      obtain ⟨before, rfl⟩ := (Text.prefix_append_cons_iff free).1 ⟨rest, whole.symm⟩
      rw [List.append_assoc] at whole
      obtain ⟨good, bad, rfl, faulty⟩ := ih (List.append_cancel_left whole)
      exact ⟨_ :: good, bad, rfl, faulty⟩
  | @stray position _ _ _ _ => exact ⟨[], .stray position, rfl, by simp [Token.fault?]⟩

/-- Nothing is reported about a text of directives. -/
theorem Faulty.not_spells (faulty : Faulty text fault) : ¬Spells text entries := by
  intro spells
  cases faulty with
  | blocked front character rest whole viable stuck =>
      exact stuck ((viable_of_spells spells).of_lead ⟨rest, by simp [whole]⟩)
  | unfinished front gap whole separators viable =>
      obtain ⟨tokens, cut, forms⟩ := spells
      rw [whole] at cut
      obtain ⟨good, bad, rfl, refused⟩ := cut.exists_last separators
      exact refused forms.fault?_last

/-- What is reported is where the text goes wrong. -/
theorem read_eq_error_iff : read text = .error fault ↔ Faulty text fault := by
  constructor
  · exact faulty_of_read
  · intro faulty
    cases result : read text with
    | ok directives =>
        obtain ⟨entries, spells, -⟩ := spells_of_read result
        exact absurd spells faulty.not_spells
    | error other => rw [(faulty_of_read result).unique faulty]

/-- A value that stands on a later line is found, but a second equals sign there is misplaced. -/
example : read "a =\n= b".toList = .error (.misplacedEquals ⟨2, 1⟩) := by decide +kernel

/-- The grammar of directives, and what is made of a text that follows it or does not. A text is
read exactly if it consists of words and settings. Then the words are collected in order, and the
keys in the order in which they are first set, each with its last value. What is reported about any
other text is the first character with which it cannot be continued to a text of directives, or the
equals sign at its end. -/
theorem read_grammar (text : Text) :
    ((∃ directives, read text = .ok directives) ↔ ∃ entries, Spells text entries) ∧
      (∀ directives, read text = .ok directives ↔
        ∃ entries, Spells text entries ∧ Collects entries directives) ∧
      ∀ fault, read text = .error fault ↔ Faulty text fault := by
  have accepted : ∀ directives, read text = .ok directives ↔
      ∃ entries, Spells text entries ∧ Collects entries directives := by
    intro directives
    constructor
    · intro readable
      obtain ⟨entries, spells, rfl⟩ := spells_of_read readable
      exact ⟨entries, spells, collects_foldl_add entries⟩
    · rintro ⟨entries, spells, collects⟩
      rw [read_of_spells spells, (collects_foldl_add entries).unique collects]
  refine ⟨⟨?_, ?_⟩, accepted, fun fault => read_eq_error_iff⟩
  · rintro ⟨directives, readable⟩
    obtain ⟨entries, spells, -⟩ := spells_of_read readable
    exact ⟨entries, spells⟩
  · rintro ⟨entries, spells⟩
    exact ⟨_, read_of_spells spells⟩

end Mockup.Directives
