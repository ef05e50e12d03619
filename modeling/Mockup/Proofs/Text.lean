import Mathlib.Data.List.DropRight
import Mathlib.Data.List.Infix
import Mockup.Text.Split

/-!
# Trimmed text

What trimming leaves, and what cutting a text at separators gives back. A trimmed text is told by
its two ends: neither the first nor the last character is a blank. Everything that is read out of
a line is made of the characters of that line, so containment of character lists is the form in
which the later modules say that nothing was made up.
-/

namespace Mockup.Text

theorem trimStart_subset (text : Text) : trimStart text ⊆ text :=
  List.dropWhile_subset isBlank

theorem trim_eq_rdropWhile (text : Text) :
    trim text = (trimStart text).rdropWhile isBlank := rfl

theorem trim_subset (text : Text) : trim text ⊆ text := by
  intro character member
  rw [trim_eq_rdropWhile] at member
  exact trimStart_subset text ((List.rdropWhile_prefix isBlank _).subset member)

/-- A text without a leading blank has nothing to drop in front. -/
theorem trimStart_eq_self {text : Text}
    (visible : ∀ character ∈ text.head?, isBlank character = false) : trimStart text = text := by
  cases text with
  | nil => rfl
  | cons first rest =>
      have plain : ¬ isBlank first = true := by simpa using visible first (by simp)
      exact List.dropWhile_cons_of_neg plain

theorem head?_trimStart (text : Text) {character : Char}
    (first : character ∈ (trimStart text).head?) : isBlank character = false := by
  have found := List.head?_dropWhile_not isBlank text
  rw [← trimStart] at found
  cases rest : (trimStart text).head? with
  | none => simp [rest] at first
  | some other =>
      rw [rest] at first found
      obtain rfl : other = character := by simpa using first
      simpa using found

theorem getLast?_trim (text : Text) {character : Char}
    (last : character ∈ (trim text).getLast?) : isBlank character = false := by
  have nonempty : trim text ≠ [] := by
    rintro empty
    simp [empty] at last
  have visible := List.rdropWhile_last_not isBlank (trimStart text) nonempty
  rw [Option.mem_def, List.getLast?_eq_some_getLast nonempty, Option.some.injEq] at last
  subst last
  exact Bool.not_eq_true _ ▸ visible

theorem head?_trim (text : Text) {character : Char}
    (first : character ∈ (trim text).head?) : isBlank character = false := by
  apply head?_trimStart text
  obtain ⟨rest, whole⟩ := List.rdropWhile_prefix isBlank (trimStart text)
  rw [← whole, ← trim_eq_rdropWhile]
  cases kept : trim text with
  | nil => simp [kept] at first
  | cons other more => simpa [kept] using first

/-- A text is trimmed exactly when it has no blank at either end. -/
theorem trim_eq_self_iff {text : Text} :
    trim text = text ↔
      (∀ character ∈ text.head?, isBlank character = false) ∧
        ∀ character ∈ text.getLast?, isBlank character = false := by
  constructor
  · intro trimmed
    rw [← trimmed]
    exact ⟨fun _ => head?_trim text, fun _ => getLast?_trim text⟩
  · rintro ⟨first, last⟩
    rw [trim, trimStart_eq_self first]
    apply List.rdropWhile_eq_self_iff.2
    intro nonempty
    have visible := last (text.getLast nonempty) (List.getLast?_eq_some_getLast nonempty)
    simp [visible]

@[simp] theorem trim_trim (text : Text) : trim (trim text) = trim text :=
  trim_eq_self_iff.2 ⟨fun _ => head?_trim text, fun _ => getLast?_trim text⟩

theorem trimStart_eq_nil_iff {text : Text} : trimStart text = [] ↔ allBlank text = true := by
  rw [trimStart, List.dropWhile_eq_nil_iff, allBlank, List.all_eq_true]

theorem trim_eq_nil_iff {text : Text} : trim text = [] ↔ allBlank text = true := by
  rw [← trimStart_eq_nil_iff]
  constructor
  · intro empty
    have blank : ∀ character ∈ trimStart text, isBlank character = true :=
      List.rdropWhile_eq_nil_iff.1 empty
    cases kept : trimStart text with
    | nil => rfl
    | cons first rest =>
        have visible : isBlank first = false := head?_trimStart text (by simp [kept])
        have hidden := blank first (by simp [kept])
        simp [hidden] at visible
  · intro empty
    rw [trim, empty]
    rfl

/-- Blanks in front of a text are trimmed away. -/
theorem trim_blank_append {before : Text} (blank : allBlank before = true) (text : Text) :
    trim (before ++ text) = trim text := by
  rw [trim, trim, trimStart, trimStart,
    List.dropWhile_append_of_pos (List.all_eq_true.1 blank)]

theorem trim_blank_cons {blank : Char} (hidden : isBlank blank = true) (text : Text) :
    trim (blank :: text) = trim text := by
  have alone : allBlank [blank] = true := by simpa [allBlank] using hidden
  exact trim_blank_append alone text

/-- Blanks behind a text are trimmed away. -/
theorem trim_append_blank {after : Text} (text : Text) (blank : allBlank after = true) :
    trim (text ++ after) = trim text := by
  have hidden : ∀ character ∈ after, isBlank character = true := List.all_eq_true.1 blank
  have ending : trimEnd after = [] := List.rdropWhile_eq_nil_iff.2 hidden
  rw [trim, trim, trimStart, trimStart, List.dropWhile_append]
  split
  · rename_i empty
    rw [List.isEmpty_iff.1 empty, List.dropWhile_eq_nil_iff.2 hidden]
  · rw [trimEnd, List.reverse_append, List.dropWhile_append_of_pos (by simpa using hidden)]
    rfl

theorem oneLine_iff {text : Text} : oneLine text = true ↔ '\n' ∉ text := by
  simp [oneLine]

/-- Taking a carriage return off the end of a line changes nothing about the trimmed line. -/
theorem trim_dropReturn (line : Text) : trim ((before? ['\r'] line).getD line) = trim line := by
  cases found : before? ['\r'] line with
  | none => rfl
  | some front =>
      rw [before?_eq_some_iff.1 found]
      exact (trim_append_blank front (by decide)).symm

/-- A trimmed line does not end with a carriage return. -/
theorem dropReturn_of_trim {line : Text} (trimmed : trim line = line) :
    (before? ['\r'] line).getD line = line := by
  cases found : before? ['\r'] line with
  | none => rfl
  | some front =>
      have split := before?_eq_some_iff.1 found
      have visible := (trim_eq_self_iff.1 trimmed).2 '\r' (by simp [split])
      exact absurd visible (by decide)

/-- A line feed is taken off only where one is. -/
theorem chomp_of_not_mem {line : Text} (single : '\n' ∉ line) : chomp line = line := by
  rw [chomp]
  cases found : before? ['\n'] line with
  | none => rfl
  | some front =>
      rw [before?_eq_some_iff.1 found] at single
      simp at single

/-! ## Pieces between separators -/

theorem splitOn_of_not_mem {separator : Char} {text : Text} (free : separator ∉ text) :
    splitOn separator text = [text] := by
  induction text with
  | nil => rfl
  | cons character rest ih =>
      simp only [List.mem_cons, not_or] at free
      rw [splitOn, if_neg (Ne.symm free.1), ih free.2]

/-- Cutting joined pieces at the separator gives the pieces back. -/
theorem splitOn_joined {separator : Char} {pieces : List Text} (nonempty : pieces ≠ [])
    (free : ∀ piece ∈ pieces, separator ∉ piece) :
    splitOn separator (joined [separator] pieces) = pieces := by
  induction pieces with
  | nil => exact absurd rfl nonempty
  | cons piece pieces ih =>
      have alone : splitOn separator piece = [piece] := splitOn_of_not_mem (free piece (by simp))
      cases pieces with
      | nil => simpa [joined] using alone
      | cons next more =>
          have others := ih (by simp) fun other member => free other (by simp [member])
          rw [joined, List.intercalate_cons_cons, List.append_assoc, List.singleton_append,
            splitOn_append_cons, alone, ← joined, others]
          rfl

theorem subset_of_mem_splitOn {separator : Char} {text piece : Text}
    (member : piece ∈ splitOn separator text) : piece ⊆ text := by
  induction text generalizing piece with
  | nil => simp_all [splitOn]
  | cons character rest ih =>
      rw [splitOn] at member
      split at member
      · rcases List.mem_cons.1 member with rfl | later
        · exact List.nil_subset _
        · exact List.subset_cons_of_subset _ (ih later)
      · split at member
        · rw [List.mem_singleton.1 member]
          exact List.cons_subset_cons _ (List.nil_subset _)
        · rename_i first others equal
          rcases List.mem_cons.1 member with rfl | later
          · exact List.cons_subset_cons _ (ih (by simp [equal]))
          · exact List.subset_cons_of_subset _ (ih (by simp [equal, later]))

/-- An entry is trimmed and nonempty, holds no separator, and is made of characters of the text. -/
theorem mem_entries {separator : Char} {text entry : Text}
    (member : entry ∈ entries separator text) :
    trim entry = entry ∧ entry ≠ [] ∧ separator ∉ entry ∧ entry ⊆ text := by
  simp only [entries, List.mem_filter, List.mem_map, decide_eq_true_eq] at member
  obtain ⟨⟨piece, cut, rfl⟩, nonempty⟩ := member
  refine ⟨trim_trim piece, nonempty, ?_,
    List.Subset.trans (trim_subset piece) (subset_of_mem_splitOn cut)⟩
  exact fun held => not_mem_of_mem_splitOn cut (trim_subset piece held)

theorem entries_append_cons (separator : Char) (front rest : Text) :
    entries separator (front ++ separator :: rest) =
      entries separator front ++ entries separator rest := by
  rw [entries, splitOn_append_cons, List.map_append, List.filter_append]
  rfl

theorem entries_blank_cons {separator blank : Char} (hidden : isBlank blank = true)
    (differs : blank ≠ separator) (text : Text) :
    entries separator (blank :: text) = entries separator text := by
  obtain ⟨piece, pieces, cut⟩ := List.exists_cons_of_ne_nil (splitOn_ne_nil separator text)
  simp only [entries, splitOn, if_neg differs, cut, List.map_cons, trim_blank_cons hidden]

/-- Trimmed pieces that were joined are found again; the blank behind each separator is dropped. -/
theorem entries_joined {separator blank : Char} {pieces : List Text} (hidden : isBlank blank = true)
    (differs : blank ≠ separator) (trimmed : ∀ piece ∈ pieces, trim piece = piece)
    (filled : ∀ piece ∈ pieces, piece ≠ []) (free : ∀ piece ∈ pieces, separator ∉ piece) :
    entries separator (joined [separator, blank] pieces) = pieces := by
  induction pieces with
  | nil => rfl
  | cons piece pieces ih =>
      obtain ⟨pieceTrimmed, trimmed⟩ := List.forall_mem_cons.1 trimmed
      obtain ⟨pieceFilled, filled⟩ := List.forall_mem_cons.1 filled
      obtain ⟨pieceFree, free⟩ := List.forall_mem_cons.1 free
      have alone : entries separator piece = [piece] := by
        simp [entries, splitOn_of_not_mem pieceFree, pieceTrimmed, pieceFilled]
      cases pieces with
      | nil => rwa [joined, List.intercalate_singleton]
      | cons next more =>
          have shape : joined [separator, blank] (piece :: next :: more) =
              piece ++ separator :: blank :: joined [separator, blank] (next :: more) := by
            simp [joined]
          rw [shape, entries_append_cons, entries_blank_cons hidden differs, alone,
            ih trimmed filled free]
          rfl

/-- What holds of all pieces, and of two texts with the separator between them if it holds of each,
holds of the joined pieces. -/
theorem joined_induction {property : Text → Prop} {separator : Text} {pieces : List Text}
    (nonempty : pieces ≠ []) (each : ∀ piece ∈ pieces, property piece)
    (joint : ∀ front rest, property front → property rest → property (front ++ separator ++ rest)) :
    property (joined separator pieces) := by
  induction pieces with
  | nil => exact absurd rfl nonempty
  | cons piece pieces ih =>
      obtain ⟨first, others⟩ := List.forall_mem_cons.1 each
      cases pieces with
      | nil => rwa [joined, List.intercalate_singleton]
      | cons next more =>
          rw [joined, List.intercalate_cons_cons]
          exact joint _ _ first (ih (List.cons_ne_nil _ _) others)

theorem after?_isSome_iff {lead text : Text} :
    (after? lead text).isSome = true ↔ lead <+: text := by
  rw [Option.isSome_iff_exists]
  constructor
  · rintro ⟨rest, found⟩
    exact ⟨rest, (after?_eq_some_iff.1 found).symm⟩
  · rintro ⟨rest, whole⟩
    exact ⟨rest, after?_eq_some_iff.2 whole.symm⟩

theorem after?_subset {lead text rest : Text} (found : after? lead text = some rest) :
    rest ⊆ text := by
  rw [after?_eq_some_iff.1 found]
  exact List.subset_append_right lead rest

theorem before?_subset {tail text front : Text} (found : before? tail text = some front) :
    front ⊆ text := by
  rw [before?_eq_some_iff.1 found]
  exact List.subset_append_left front tail

/-- What follows a lead, with blanks allowed on both sides of the lead. -/
theorem trimStart_after?_subset {lead text rest : Text}
    (found : after? lead (trimStart text) = some rest) : trimStart rest ⊆ text :=
  calc
    trimStart rest ⊆ rest := trimStart_subset rest
    _ ⊆ trimStart text := after?_subset found
    _ ⊆ text := trimStart_subset text

theorem chomp_subset (text : Text) : chomp text ⊆ text := by
  rw [chomp]
  cases found : before? ['\n'] text with
  | none => exact List.Subset.refl text
  | some front => exact before?_subset found

theorem skipBlanks_subset (text : Text) : skipBlanks text ⊆ text := by
  fun_induction skipBlanks text with
  | case1 => exact List.Subset.refl []
  | case2 last => exact List.Subset.refl [last]
  | case3 first second rest blank ih => exact List.subset_cons_of_subset _ ih
  | case4 first second rest visible => exact List.Subset.refl _

theorem skipBlanks_ne_nil {text : Text} (nonempty : text ≠ []) : skipBlanks text ≠ [] := by
  fun_induction skipBlanks text with
  | case1 => exact nonempty
  | case2 last => exact nonempty
  | case3 first second rest blank ih => exact ih (by simp)
  | case4 first second rest visible => exact nonempty

/-- What is found behind blanks is not empty. -/
theorem afterBlanks?_eq_some {text rest : Text} (found : afterBlanks? text = some rest) :
    rest ≠ [] ∧ rest ⊆ text := by
  cases text with
  | nil => simp [afterBlanks?] at found
  | cons first text =>
      cases text with
      | nil => simp [afterBlanks?] at found
      | cons second text =>
          rw [afterBlanks?] at found
          split at found
          · injection found with found
            rw [← found]
            constructor
            · exact skipBlanks_ne_nil (by simp)
            · exact List.subset_cons_of_subset _ (skipBlanks_subset _)
          · cases found

theorem behindBlanks?_eq_some {α : Type} {read : Text → Option α} {text : Text} {found : α}
    (behind : behindBlanks? read text = some found) :
    ∃ rest, rest ⊆ text ∧ read rest = some found := by
  cases text with
  | nil => simp [behindBlanks?] at behind
  | cons first text =>
      rw [behindBlanks?] at behind
      split at behind
      · exact ⟨_, List.subset_cons_of_subset _ (trimStart_subset text), behind⟩
      · cases behind

/-- What a cut leaves on either side is made of characters of the text. -/
theorem until?_subset {α : Type} {read : Text → Option α} {text front : Text} {found : α}
    (cut : until? read text = some (front, found)) :
    front ⊆ text ∧ ∃ rest, rest ⊆ text ∧ read rest = some found := by
  obtain ⟨-, rest, whole, success⟩ := until?_eq_some cut
  rw [whole]
  exact ⟨List.subset_append_left _ _, rest, List.subset_append_right _ _, success⟩

/-- A cut leaves the shortest front: behind no shorter one anything is read. -/
theorem until?_shortest {α : Type} {read : Text → Option α} {front rest : Text} {found : α}
    (cut : until? read (front ++ rest) = some (front, found)) {before after : Text}
    (split : front = before ++ after) (started : before ≠ []) (early : after ≠ []) :
    read (after ++ rest) = none := by
  induction front generalizing before with
  | nil => exact absurd (List.append_eq_nil_iff.1 split.symm).1 started
  | cons first others ih =>
      obtain ⟨_, front, rfl⟩ := List.exists_cons_of_ne_nil started
      rw [List.cons_append, List.cons.injEq] at split
      obtain ⟨rfl, rfl⟩ := split
      rw [List.cons_append, until?] at cut
      split at cut
      · simp only [Option.some.injEq, Prod.mk.injEq, List.cons.injEq, List.nil_eq,
          List.append_eq_nil_iff] at cut
        exact absurd cut.1.2.2 early
      · rename_i failed
        obtain ⟨⟨shorter, value⟩, inner, made⟩ := Option.map_eq_some_iff.1 cut
        cases made
        cases front with
        | nil => exact failed
        | cons second front => exact ih inner rfl (List.cons_ne_nil second front)

theorem upTo?_subset {stop : Char} {text run rest : Text}
    (found : upTo? stop text = some (run, rest)) : run ⊆ text := by
  rw [(upTo?_eq_some_iff.1 found).1.1]
  exact List.subset_append_left _ _

theorem spanTo?_subset {stop : Char} {text run rest : Text}
    (found : spanTo? stop text = some (run, rest)) : run ⊆ text ∧ rest ⊆ text := by
  rw [(spanTo?_eq_some_iff.1 found).1]
  exact ⟨List.subset_append_left _ _,
    List.Subset.trans (List.subset_cons_self _ _) (List.subset_append_right _ _)⟩

/-- Different numbers are written differently. -/
theorem ofNat_injective : Function.Injective ofNat := by
  intro first second same
  calc
    first = Nat.ofDigitChars 10 (ofNat first) 0 := Nat.ofDigitChars_ten_toDigits.symm
    _ = Nat.ofDigitChars 10 (ofNat second) 0 := by rw [same]
    _ = second := Nat.ofDigitChars_ten_toDigits

end Mockup.Text
