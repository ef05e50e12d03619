import Mockup.Directives

/-!
# Words and settings in directives

What the scanner makes of a run of plain characters, and where the values of settings come from: a
value is a word of the text, so it is not empty and holds neither blanks nor characters that the
text does not have.
-/

namespace Mockup.Directives

/-- A run of characters that belong to a word. -/
def IsWord (text : Text) : Prop :=
  ∀ character ∈ text, character ≠ '=' ∧ Text.isBlank character = false

/-- A word that is being read takes in the plain characters that follow. -/
theorem scan_pending_append {run : Text} (plain : IsWord run) (word rest : Text)
    (start position : Position) :
    scan (some (word, start)) position (run ++ rest) =
      scan (some (run.reverse ++ word, start)) (run.foldl Position.advance position) rest := by
  induction run generalizing word position with
  | nil => rfl
  | cons character run ih =>
      obtain ⟨notEquals, visible⟩ := plain character (by simp)
      have others : IsWord run := fun other member => plain other (by simp [member])
      rw [List.cons_append, scan, if_neg (by simp [notEquals, visible])]
      simp [ih others]

/-- A word up to whatever follows it. -/
theorem scan_append {word : Text} (nonempty : word ≠ []) (plain : IsWord word) (rest : Text)
    (position : Position) :
    scan none position (word ++ rest) =
      scan (some (word.reverse, position)) (word.foldl Position.advance position) rest := by
  cases word with
  | nil => exact absurd rfl nonempty
  | cons first word =>
      obtain ⟨notEquals, visible⟩ := plain first (by simp)
      have others : IsWord word := fun other member => plain other (by simp [member])
      rw [List.cons_append, scan, if_neg (by simp [notEquals, visible])]
      simp [scan_pending_append others]

/-- A key, an equals sign and a value are read as that setting and nothing else. -/
theorem read_setting {key value : Text} (named : key ≠ []) (keyPlain : IsWord key)
    (set : value ≠ []) (valuePlain : IsWord value) :
    read (key ++ '=' :: value) = .ok ⟨[], [(key, value)]⟩ := by
  have valueToken : ∀ position, scan none position value = [.word value position] := by
    intro position
    have scanned := scan_append set valuePlain [] position
    simpa [scan] using scanned
  rw [read, tokens, scan_append named keyPlain, scan]
  simp [valueToken, addTokens, put, empty]

/-- What may stand in the tokens of a text. -/
def Token.Within (text : Text) : Token → Prop
  | .word content _ =>
      content ≠ [] ∧ (∀ character ∈ content, Text.isBlank character = false) ∧ content ⊆ text
  | .equals _ | .stray _ => True

/-- The word that is being read, if there is one, stands within the text. -/
def PendingWithin (text : Text) (pending : Option (Text × Position)) : Prop :=
  ∀ word start, pending = some (word, start) → Token.Within text (.word word.reverse start)

theorem within_pending {text : Text} {pending : Option (Text × Position)}
    (started : PendingWithin text pending) :
    ∀ token ∈ (pending.map fun (word, start) => Token.word word.reverse start).toList,
      Token.Within text token := by
  intro token member
  cases pending with
  | none => simp at member
  | some pair =>
      obtain rfl : token = .word pair.1.reverse pair.2 := by simpa using member
      exact started pair.1 pair.2 rfl

/-- Every token of a text stands within it. -/
theorem within_scan {text : Text} {pending : Option (Text × Position)} {position : Position}
    {rest : Text} (started : PendingWithin text pending) (behind : rest ⊆ text) :
    ∀ token ∈ scan pending position rest, Token.Within text token := by
  have untouched : PendingWithin text none := by simp [PendingWithin]
  fun_induction scan pending position rest with
  | case1 pending position => exact within_pending started
  | case2 pending position rest =>
      rename_i ih
      have later : rest ⊆ text := (List.cons_subset.1 behind).2
      refine List.forall_mem_append.2 ⟨within_pending started, ?_⟩
      exact List.forall_mem_cons.2 ⟨trivial, ih untouched later⟩
  | case3 pending position character rest =>
      rename_i ih
      have later : rest ⊆ text := (List.cons_subset.1 behind).2
      exact List.forall_mem_append.2 ⟨within_pending started, ih untouched later⟩
  | case4 pending position character rest =>
      exact List.forall_mem_append.2
        ⟨within_pending started, List.forall_mem_singleton.2 trivial⟩
  | case5 pending position character rest plain extended ih =>
      obtain ⟨here, later⟩ := List.cons_subset.1 behind
      have visible : Text.isBlank character = false := by simp_all
      apply ih _ later
      intro word start grown
      cases pending with
      | none =>
          obtain ⟨rfl, rfl⟩ : [character] = word ∧ position = start := by
            simpa [extended] using grown
          exact ⟨by simp, by simpa using visible, by simpa using here⟩
      | some pair =>
          obtain ⟨rfl, rfl⟩ : character :: pair.1 = word ∧ pair.2 = start := by
            simpa [extended] using grown
          obtain ⟨_, plainWord, within⟩ := started pair.1 pair.2 rfl
          refine ⟨by simp, ?_, ?_⟩
          · intro other member
            simp only [List.reverse_cons, List.mem_append, List.mem_singleton] at member
            rcases member with earlier | rfl
            · exact plainWord other earlier
            · exact visible
          · simpa [here] using within

/-- The value of a setting is a word of the text. -/
def SettingsWithin (text : Text) (settings : List (Text × Text)) : Prop :=
  ∀ setting ∈ settings, setting.2 ≠ [] ∧
    (∀ character ∈ setting.2, Text.isBlank character = false) ∧ setting.2 ⊆ text

theorem SettingsWithin.put {text key value : Text} {settings : List (Text × Text)}
    (within : SettingsWithin text settings) (new : SettingsWithin text [(key, value)]) :
    SettingsWithin text (put key value settings) := by
  induction settings with
  | nil => exact new
  | cons setting settings ih =>
      obtain ⟨first, others⟩ := List.forall_mem_cons.1 within
      rw [Directives.put]
      split
      · exact List.forall_mem_cons.2 ⟨new (key, value) (by simp), others⟩
      · exact List.forall_mem_cons.2 ⟨first, ih others⟩

theorem SettingsWithin.addTokens {text : Text} {directives result : Directives}
    {tokens : List Token} (settings : SettingsWithin text directives.settings)
    (within : ∀ token ∈ tokens, Token.Within text token)
    (added : Directives.addTokens directives tokens = .ok result) :
    SettingsWithin text result.settings := by
  fun_induction Directives.addTokens directives tokens with
  | case1 directives =>
      cases added
      exact settings
  | case2 directives key keyPlace equalsPlace value valuePlace rest ih =>
      have valueWithin : Token.Within text (.word value valuePlace) := within _ (by simp)
      apply ih _ (fun token member => within token (by simp [member])) added
      exact settings.put (List.forall_mem_singleton.2 valueWithin)
  | case6 directives word place rest =>
      rename_i ih
      exact ih settings (fun token member => within token (by simp [member])) added
  | case3 | case4 | case5 | case7 | case8 => cases added

/-- A setting that is read out of a text has a word of that text as its value. -/
theorem get?_within {text key value : Text} {directives : Directives}
    (readable : read text = .ok directives) (found : directives.get? key = some value) :
    value ≠ [] ∧ (∀ character ∈ value, Text.isBlank character = false) ∧ value ⊆ text := by
  have tokensWithin : ∀ token ∈ tokens text, Token.Within text token :=
    within_scan (by simp [PendingWithin]) (List.Subset.refl text)
  have within : SettingsWithin text directives.settings :=
    SettingsWithin.addTokens (by simp [SettingsWithin, empty]) tokensWithin readable
  obtain ⟨front, rest, split, _⟩ := List.lookup_eq_some_iff.1 found
  exact within (key, value) (by simp [split])

end Mockup.Directives
