import Mockup.Proofs.Text
import Mockup.Text.Case
import Mockup.Text.Slug

/-!
# What slugs keep

A slug is written in one pass, with lower case looked up on the way. What it keeps of a text is said
here without the pass: the words of basic Latin letters and digits in the lower case of the text. A
slug is these words with hyphens between them, so texts have the same slug exactly if they have the
same words, and a text without such words has an empty slug.
-/

namespace Mockup.Text

/-- Whether a character belongs to the alphabet of slugs. -/
def isSlugLetter (character : Char) : Bool :=
  let code := character.toNat
  (97 ≤ code && code ≤ 122) || (48 ≤ code && code ≤ 57)

/-- What is known of the lower case of a character, as far as slugs are concerned: a letter, a
letter with something behind it, or something else. -/
inductive Lowered (character : Char) : Text → Prop where
  | letter {letter : Char} (kept : slugCharacter? character = some letter)
      (alone : hasSlugGap character = false) (listed : isSlugLetter letter = true) :
      Lowered character [letter]
  | marked {letter mark : Char} (kept : slugCharacter? character = some letter)
      (followed : hasSlugGap character = true) (listed : isSlugLetter letter = true)
      (unlisted : isSlugLetter mark = false) : Lowered character [letter, mark]
  | other {image : Char} (dropped : slugCharacter? character = none)
      (unlisted : isSlugLetter image = false) : Lowered character [image]

/-- The capitals whose small letters belong to the alphabet of slugs stand in two runs, and all
others are far from them. -/
theorem capitalRuns_cases {run : CapitalRun} (member : run ∈ capitalRuns) :
    run = ⟨0x41, 0x5A, 1, 0x61⟩ ∨ run = ⟨0x212A, 0x212A, 1, 0x6B⟩ ∨
      0x7F < run.first ∧ 0x7F < run.small ∧ (run.last < 0x212A ∨ 0x212A < run.first) := by
  revert run
  decide +kernel

theorem toNat_ofNat {code : Nat} (valid : code.isValidChar) : (Char.ofNat code).toNat = code := by
  have same : Char.ofNat code = Char.ofNatAux code valid := dif_pos valid
  rw [same]
  rfl

theorem isSlugLetter_ofNat {code : Nat} (above : 97 ≤ code) (below : code ≤ 122) :
    isSlugLetter (Char.ofNat code) = true := by
  simp [isSlugLetter, toNat_ofNat (.inl (by omega) : code.isValidChar), above, below]

/-- Far from the alphabet of slugs there is nothing of it. -/
theorem isSlugLetter_ofNat_eq_false {code : Nat} (far : 0x7F < code) :
    isSlugLetter (Char.ofNat code) = false := by
  by_cases valid : code.isValidChar
  · simp only [isSlugLetter, toNat_ofNat valid, Bool.or_eq_false_iff, Bool.and_eq_false_iff,
      decide_eq_false_iff_not]
    omega
  · simp [isSlugLetter, Char.ofNat, valid]

theorem slugCharacter?_eq_none {character : Char} (unlisted : isSlugLetter character = false)
    (small : character.toNat < 65 ∨ 90 < character.toNat) (noKelvin : character.toNat ≠ 0x212A)
    (undotted : character.toNat ≠ 0x130) : slugCharacter? character = none := by
  have noCapital : ¬(decide (65 ≤ character.toNat) && decide (character.toNat ≤ 90)) = true := by
    simp only [Bool.and_eq_true, decide_eq_true_eq]
    omega
  simp only [isSlugLetter] at unlisted
  simp [slugCharacter?, unlisted, noCapital, noKelvin, undotted]

/-- A character that is its own lower case. -/
theorem Lowered.self {character : Char} (small : character.toNat < 65 ∨ 90 < character.toNat)
    (noKelvin : character.toNat ≠ 0x212A) (undotted : character.toNat ≠ 0x130) :
    Lowered character [character] := by
  cases listed : isSlugLetter character with
  | true =>
      have kept : slugCharacter? character = some character := by
        simp only [isSlugLetter] at listed
        simp [slugCharacter?, listed]
      exact .letter kept (by simp [hasSlugGap, undotted]) listed
  | false => exact .other (slugCharacter?_eq_none listed small noKelvin undotted) listed

/-- A capital in a run. -/
theorem Lowered.capital {character : Char} {run : CapitalRun} (member : run ∈ capitalRuns)
    (held : run.holds character.toNat = true) (undotted : character.toNat ≠ 0x130) :
    Lowered character [Char.ofNat (run.small + (character.toNat - run.first))] := by
  simp only [CapitalRun.holds, Bool.and_eq_true, decide_eq_true_eq] at held
  obtain ⟨⟨above, below⟩, -⟩ := held
  have alone : hasSlugGap character = false := by simp [hasSlugGap, undotted]
  rcases capitalRuns_cases member with rfl | rfl | ⟨first, small, noKelvin⟩
  · dsimp only at above below ⊢
    have shifted : 0x61 + (character.toNat - 0x41) = character.toNat + 32 := by omega
    have small : ¬((97 ≤ character.toNat ∧ character.toNat ≤ 122) ∨
        (48 ≤ character.toNat ∧ character.toNat ≤ 57)) := by omega
    have kept : slugCharacter? character = some (Char.ofNat (character.toNat + 32)) := by
      simp [slugCharacter?, small, above, below]
    rw [shifted]
    exact .letter kept alone (isSlugLetter_ofNat (by omega) (by omega))
  · dsimp only at above below ⊢
    have kelvin : character.toNat = 0x212A := by omega
    have kept : slugCharacter? character = some 'k' := by simp [slugCharacter?, kelvin]
    rw [kelvin]
    exact .letter kept alone (by decide)
  · have unlisted : isSlugLetter character = false := by
      simp only [isSlugLetter, Bool.or_eq_false_iff, Bool.and_eq_false_iff,
        decide_eq_false_iff_not]
      omega
    exact .other (slugCharacter?_eq_none unlisted (by omega) (by omega) undotted)
      (isSlugLetter_ofNat_eq_false (by omega))

theorem lowered_lowerCharacter (character : Char) :
    Lowered character (lowerCharacter character) := by
  rw [lowerCharacter]
  split_ifs with low dotted
  · exact .self (.inl low) (by omega) (by omega)
  · have kept : slugCharacter? character = some 'i' := by simp [slugCharacter?, dotted]
    exact .marked kept (by simp [hasSlugGap, dotted]) (by decide) (by decide)
  · cases found : capitalRuns.find? (·.holds character.toNat) with
    | some run =>
        have held : run.holds character.toNat = true := by
          simpa using List.find?_some found
        exact .capital (List.mem_of_find?_eq_some found) held dotted
    | none =>
        rw [List.find?_eq_none] at found
        have noLatin := found ⟨0x41, 0x5A, 1, 0x61⟩ (by decide)
        have noKelvin := found ⟨0x212A, 0x212A, 1, 0x6B⟩ (by decide)
        simp only [CapitalRun.holds, Nat.mod_one, beq_self_eq_true, Bool.and_true, Bool.and_eq_true,
          decide_eq_true_eq] at noLatin noKelvin
        exact .self (by omega) (by omega) dotted

/-! ## The words of a slug -/

/-- The runs of letters in a text, with empty ones between neighbours that are no letters. -/
def letterRuns (text : Text) : List Text :=
  text.splitOnP fun character => !isSlugLetter character

/-- The words of a text, as far as slugs keep them. -/
def slugWords (text : Text) : List Text :=
  (letterRuns (lower text)).filter (· ≠ [])

/-- How a slug goes on: the run it stands in is completed only if nothing has been left out since,
and the words behind get hyphens. -/
def writtenRuns : (started gap : Bool) → List Text → Text
  | false, _, runs => joined ['-'] (runs.filter (· ≠ []))
  | true, true, runs => (runs.filter (· ≠ [])).flatMap ('-' :: ·)
  | true, false, runs => runs.headD [] ++ (runs.tail.filter (· ≠ [])).flatMap ('-' :: ·)

theorem letterRuns_cons_letter {letter : Char} (listed : isSlugLetter letter = true)
    (text : Text) : letterRuns (letter :: text) = (letterRuns text).modifyHead (letter :: ·) := by
  simp [letterRuns, List.splitOnP_cons_eq_if_modifyHead, listed]

theorem letterRuns_cons_other {other : Char} (unlisted : isSlugLetter other = false)
    (text : Text) : letterRuns (other :: text) = [] :: letterRuns text := by
  simp [letterRuns, List.splitOnP_cons_eq_if_modifyHead, unlisted]

theorem joined_hyphen_cons (word : Text) (words : List Text) :
    joined ['-'] (word :: words) = word ++ words.flatMap ('-' :: ·) := by
  induction words generalizing word with
  | nil => simp [joined]
  | cons next words ih =>
      rw [joined, List.intercalate_cons_cons, ← joined, ih]
      simp

theorem writtenRuns_letter (started gap : Bool) {letter : Char}
    (listed : isSlugLetter letter = true) (text : Text) :
    writtenRuns started gap (letterRuns (letter :: text)) =
      (if started && gap then ['-'] else []) ++
        letter :: writtenRuns true false (letterRuns text) := by
  obtain ⟨run, runs, found⟩ : ∃ run runs, letterRuns text = run :: runs :=
    List.exists_cons_of_ne_nil (List.splitOnP_ne_nil _ text)
  rw [letterRuns_cons_letter listed, found]
  cases started <;> cases gap <;> simp [writtenRuns, joined_hyphen_cons]

theorem writtenRuns_other (started gap : Bool) {other : Char}
    (unlisted : isSlugLetter other = false) (text : Text) :
    writtenRuns started gap (letterRuns (other :: text)) =
      writtenRuns started true (letterRuns text) := by
  rw [letterRuns_cons_other unlisted]
  cases started <;> cases gap <;> simp [writtenRuns]

theorem slugFrom_eq_writtenRuns (started gap : Bool) (text : Text) :
    slugFrom started gap text = writtenRuns started gap (letterRuns (lower text)) := by
  induction text generalizing started gap with
  | nil => cases started <;> cases gap <;> rfl
  | cons character rest ih =>
      have lowered : lower (character :: rest) = lowerCharacter character ++ lower rest := rfl
      have known := lowered_lowerCharacter character
      rw [lowered, slugFrom]
      generalize lowerCharacter character = image at known ⊢
      cases known with
      | letter kept alone listed =>
          rw [List.singleton_append, writtenRuns_letter started gap listed, ← ih, kept, alone]
          cases started <;> cases gap <;> rfl
      | marked kept followed listed unlisted =>
          rw [List.cons_append, List.singleton_append, writtenRuns_letter started gap listed,
            writtenRuns_other true false unlisted, ← ih, kept, followed]
          cases started <;> cases gap <;> rfl
      | other dropped unlisted =>
          rw [List.singleton_append, writtenRuns_other started gap unlisted, ← ih, dropped]

/-- A slug is the words of the text with hyphens between them. -/
theorem slug_eq_joined (text : Text) : slug text = joined ['-'] (slugWords text) :=
  slugFrom_eq_writtenRuns false false text

theorem isSlugLetter_of_mem_letterRuns {text run : Text} (member : run ∈ letterRuns text) :
    ∀ character ∈ run, isSlugLetter character = true := by
  induction text generalizing run with
  | nil =>
      rw [letterRuns, List.splitOnP_nil, List.mem_singleton] at member
      simp [member]
  | cons character text ih =>
      cases listed : isSlugLetter character with
      | true =>
          obtain ⟨first, runs, found⟩ : ∃ first runs, letterRuns text = first :: runs :=
            List.exists_cons_of_ne_nil (List.splitOnP_ne_nil _ text)
          rw [letterRuns_cons_letter listed, found, List.modifyHead_cons] at member
          rw [found] at ih
          rcases List.mem_cons.1 member with rfl | later
          · exact List.forall_mem_cons.2 ⟨listed, ih (by simp)⟩
          · exact ih (by simp [later])
      | false =>
          rw [letterRuns_cons_other listed] at member
          rcases List.mem_cons.1 member with rfl | later
          · simp
          · exact ih later

theorem hyphen_not_mem_slugWords {text word : Text} (member : word ∈ slugWords text) :
    '-' ∉ word := by
  intro hyphen
  have listed : isSlugLetter '-' = true :=
    isSlugLetter_of_mem_letterRuns (List.mem_of_mem_filter member) _ hyphen
  exact absurd listed (by decide)

/-- The words of a text are found again between the hyphens of its slug. -/
theorem slugWords_eq_filter_splitOn (text : Text) :
    slugWords text = (splitOn '-' (slug text)).filter (· ≠ []) := by
  have filled : (slugWords text).filter (· ≠ []) = slugWords text := by
    simp [slugWords]
  rw [slug_eq_joined]
  cases words : slugWords text with
  | nil => rfl
  | cons word more =>
      rw [splitOn_joined (List.cons_ne_nil word more), ← words, filled]
      rw [← words]
      exact fun _ => hyphen_not_mem_slugWords

/-- Two texts have the same slug exactly if they have the same words. -/
theorem slug_eq_slug_iff {left right : Text} :
    slug left = slug right ↔ slugWords left = slugWords right := by
  constructor
  · intro same
    rw [slugWords_eq_filter_splitOn, slugWords_eq_filter_splitOn, same]
  · intro same
    rw [slug_eq_joined, slug_eq_joined, same]

theorem slug_eq_nil_iff {text : Text} : slug text = [] ↔ slugWords text = [] := by
  have wordless : slug text = slug [] ↔ slugWords text = slugWords [] := slug_eq_slug_iff
  exact wordless

end Mockup.Text
