import Mathlib.Data.List.Nodup
import Mockup.Proofs.Directives.Tokens

/-!
# The grammar of directives

Which texts are directives: those whose tokens are a sequence of words and settings. The reader
accepts these texts and no others. It collects the words in order, and the keys in the order in
which they are first set, each with the value that it is given last.
-/

namespace Mockup.Directives

variable {text : Text} {tokens : List Token}

/-- A word that stands for itself, or a setting. -/
inductive Entry where
  | word (content : Text)
  | setting (key value : Text)
  deriving DecidableEq, Repr

/-- Tokens that are a sequence of words and settings, with what they stand for. -/
inductive Forms : List Token → List Entry → Prop where
  | nil : Forms [] []
  | word {content : Text} {place : Position} {tokens : List Token} {entries : List Entry} :
      Forms tokens entries → Forms (.word content place :: tokens) (.word content :: entries)
  | setting {key value : Text} {keyPlace equalsPlace valuePlace : Position} {tokens : List Token}
      {entries : List Entry} :
      Forms tokens entries →
      Forms (.word key keyPlace :: .equals equalsPlace :: .word value valuePlace :: tokens)
        (.setting key value :: entries)

/-- A text that consists of words and settings, up to blanks between them. -/
def Spells (text : Text) (entries : List Entry) : Prop :=
  ∃ tokens, Cut .start text tokens ∧ Forms tokens entries

/-- The directives with one more entry. -/
def add (directives : Directives) : Entry → Directives
  | .word content => { directives with words := directives.words ++ [content] }
  | .setting key value => { directives with settings := put key value directives.settings }

variable {directives result : Directives} {entries : List Entry}

/-- A word that no equals sign follows stands for itself. -/
theorem addTokens_word (content : Text) (place : Position)
    (unset : ∀ token ∈ tokens.head?, ∀ position, token ≠ .equals position) :
    addTokens directives (.word content place :: tokens) =
      addTokens (directives.add (.word content)) tokens := by
  cases tokens with
  | nil => rfl
  | cons token tokens =>
      cases token with
      | equals position => exact absurd rfl (unset _ rfl position)
      | word | stray => rfl

/-- A sequence of words and settings does not start with an equals sign. -/
theorem Forms.head?_ne (forms : Forms tokens entries) :
    ∀ token ∈ tokens.head?, ∀ position, token ≠ .equals position := by
  cases forms <;> simp

theorem addTokens_of_forms (forms : Forms tokens entries) (directives : Directives) :
    addTokens directives tokens = .ok (entries.foldl add directives) := by
  induction forms generalizing directives with
  | nil => rfl
  | word forms ih => rw [addTokens_word _ _ forms.head?_ne, ih, List.foldl_cons]
  | setting forms ih => exact ih _

theorem exists_forms (added : addTokens directives tokens = .ok result) :
    ∃ entries, Forms tokens entries ∧ result = entries.foldl add directives := by
  fun_induction addTokens directives tokens with
  | case1 directives =>
      cases added
      exact ⟨[], .nil, rfl⟩
  | case2 directives key keyPlace equalsPlace value valuePlace rest ih =>
      obtain ⟨entries, forms, same⟩ := ih added
      exact ⟨.setting key value :: entries, .setting forms, same⟩
  | case6 directives word place rest =>
      rename_i ih
      obtain ⟨entries, forms, same⟩ := ih added
      exact ⟨.word word :: entries, .word forms, same⟩
  | case3 | case4 | case5 | case7 | case8 => cases added

theorem read_of_spells (spells : Spells text entries) :
    read text = .ok (entries.foldl add empty) := by
  obtain ⟨tokens, cut, forms⟩ := spells
  rw [read, Directives.tokens, scan_of_cut cut, addTokens_of_forms forms]

theorem spells_of_read (readable : read text = .ok directives) :
    ∃ entries, Spells text entries ∧ directives = entries.foldl add empty := by
  obtain ⟨entries, forms, same⟩ := exists_forms readable
  exact ⟨entries, ⟨tokens text, cut_scan _ _, forms⟩, same⟩

/-! ## What is collected -/

def Entry.word? : Entry → Option Text
  | .word content => some content
  | .setting .. => none

def Entry.setting? : Entry → Option (Text × Text)
  | .word _ => none
  | .setting key value => some (key, value)

/-- The keys that are set, each with its value, as often as they are set. -/
def assignments (entries : List Entry) : List (Text × Text) :=
  entries.filterMap Entry.setting?

/-- The words stand in order, and the keys in the order in which they are first set. Each key has
the value that it is given last. -/
structure Collects (entries : List Entry) (directives : Directives) : Prop where
  words : directives.words = entries.filterMap Entry.word?
  keys : directives.settings.map Prod.fst = ((assignments entries).map Prod.fst).eraseDups
  values : ∀ setting ∈ directives.settings,
    (assignments entries).reverse.lookup setting.1 = some setting.2

variable {key value : Text} {settings : List (Text × Text)}

theorem keys_put (key value : Text) (settings : List (Text × Text)) :
    (put key value settings).map Prod.fst =
      if key ∈ settings.map Prod.fst then settings.map Prod.fst
      else settings.map Prod.fst ++ [key] := by
  induction settings with
  | nil => rfl
  | cons setting settings ih =>
      rw [put]
      split
      · rename_i same
        simp [same]
      · rename_i differs
        rw [List.map_cons, ih]
        simp only [List.map_cons, List.mem_cons, Ne.symm differs, false_or]
        split <;> rfl

theorem nodup_keys_put (unique : (settings.map Prod.fst).Nodup) :
    ((put key value settings).map Prod.fst).Nodup := by
  rw [keys_put]
  split
  · exact unique
  · rename_i fresh
    rw [← List.concat_eq_append]
    exact (List.nodup_concat _ _).2 ⟨fresh, unique⟩

theorem lookup_cons (other key value : Text) (settings : List (Text × Text)) :
    List.lookup other ((key, value) :: settings) =
      if other = key then some value else settings.lookup other := by
  by_cases same : other = key
  · rw [if_pos same, same, List.lookup_cons_self]
  · rw [if_neg same, List.lookup_cons, beq_false_of_ne same]

theorem lookup_put (key value other : Text) (settings : List (Text × Text)) :
    (put key value settings).lookup other =
      if other = key then some value else settings.lookup other := by
  induction settings with
  | nil => exact lookup_cons other key value []
  | cons setting settings ih =>
      obtain ⟨first, old⟩ := setting
      rw [put]
      split
      · rename_i same
        rw [lookup_cons, lookup_cons, same]
        split <;> rfl
      · rename_i differs
        rw [lookup_cons, lookup_cons, ih]
        by_cases same : other = first
        · rw [if_pos same, if_neg (same ▸ differs), if_pos same]
        · rw [if_neg same, if_neg same]

theorem lookup_of_mem (unique : (settings.map Prod.fst).Nodup) (member : (key, value) ∈ settings) :
    settings.lookup key = some value := by
  induction settings with
  | nil => cases member
  | cons setting settings ih =>
      obtain ⟨fresh, others⟩ := List.nodup_cons.1 unique
      rw [lookup_cons]
      rcases List.mem_cons.1 member with rfl | later
      · exact if_pos rfl
      · rw [if_neg, ih others later]
        rintro rfl
        exact fresh (List.mem_map.2 ⟨_, later, rfl⟩)

theorem assignments_concat (entries : List Entry) (entry : Entry) :
    assignments (entries ++ [entry]) = assignments entries ++ entry.setting?.toList := by
  cases entry <;> simp [assignments, Entry.setting?]

theorem eraseDups_concat (keys : List Text) (key : Text) :
    (keys ++ [key]).eraseDups = if key ∈ keys then keys.eraseDups else keys.eraseDups ++ [key] := by
  rw [List.eraseDups_append, List.removeAll]
  by_cases member : key ∈ keys
  · simp [member]
  · simp [member, List.eraseDups_cons]

theorem nodup_keys_foldl_add (entries : List Entry) :
    ((entries.foldl add empty).settings.map Prod.fst).Nodup := by
  induction entries using List.reverseRecOn with
  | nil => exact List.nodup_nil
  | append_singleton entries entry ih =>
      rw [List.foldl_concat]
      cases entry with
      | word content => exact ih
      | setting key value => exact nodup_keys_put ih

theorem keys_foldl_add (entries : List Entry) :
    (entries.foldl add empty).settings.map Prod.fst =
      ((assignments entries).map Prod.fst).eraseDups := by
  induction entries using List.reverseRecOn with
  | nil => rfl
  | append_singleton entries entry ih =>
      rw [List.foldl_concat, assignments_concat]
      cases entry with
      | word content => simpa [add, Entry.setting?] using ih
      | setting key value =>
          rw [add, keys_put, ih]
          simp only [List.mem_eraseDups, Entry.setting?, Option.toList_some, List.map_append,
            List.map_cons, List.map_nil, eraseDups_concat]

/-- A setting has the value that it is given last. -/
theorem get?_foldl_add (entries : List Entry) (key : Text) :
    (entries.foldl add empty).get? key = (assignments entries).reverse.lookup key := by
  induction entries using List.reverseRecOn with
  | nil => rfl
  | append_singleton entries entry ih =>
      rw [List.foldl_concat, assignments_concat, List.reverse_append]
      cases entry with
      | word content => exact ih
      | setting other value =>
          rw [add, get?, lookup_put, ← get?, ih]
          exact (lookup_cons key other value _).symm

theorem words_foldl_add (entries : List Entry) :
    (entries.foldl add empty).words = entries.filterMap Entry.word? := by
  induction entries using List.reverseRecOn with
  | nil => rfl
  | append_singleton entries entry ih =>
      rw [List.foldl_concat, List.filterMap_append, ← ih]
      cases entry with
      | word content => rfl
      | setting key value => exact (List.append_nil _).symm

theorem collects_foldl_add (entries : List Entry) :
    Collects entries (entries.foldl add empty) where
  words := words_foldl_add entries
  keys := keys_foldl_add entries
  values := by
    rintro ⟨key, value⟩ member
    rw [← get?_foldl_add]
    exact lookup_of_mem (nodup_keys_foldl_add entries) member

/-- What is collected is determined by the entries. -/
theorem Collects.unique {other : Directives} (first : Collects entries directives)
    (second : Collects entries other) : directives = other := by
  let last : Text → Text × Text := fun key =>
    (key, ((assignments entries).reverse.lookup key).getD [])
  have determined : ∀ {directives : Directives}, Collects entries directives →
      directives.settings = ((assignments entries).map Prod.fst).eraseDups.map last := by
    intro directives collects
    have fixed : ∀ setting ∈ directives.settings, id setting = (last ∘ Prod.fst) setting := by
      intro setting member
      simp [last, collects.values setting member]
    rw [← collects.keys, List.map_map, ← List.map_congr_left fixed, List.map_id]
  have words : directives.words = other.words := first.words.trans second.words.symm
  have settings : directives.settings = other.settings :=
    (determined first).trans (determined second).symm
  cases directives
  cases other
  cases words
  cases settings
  rfl

end Mockup.Directives
