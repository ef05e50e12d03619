import Mockup.Proofs.Text

/-!
# Where a text is cut

Readers cut a text at the first place behind which something can be read. Here is when that place
is the intended one: nothing is read behind any earlier place. What can stand at a place is told by
the parts of the text, and a part without a certain character is on one side of every occurrence of
that character.
-/

namespace Mockup.Text

variable {α β : Type}

/-- The parts at the end of a longer text, apart from the whole, are those of the rest. -/
theorem forall_suffix_cons_iff {property : Text → Prop} {character : Char} {text : Text} :
    (∀ part, part <:+ character :: text → part ≠ character :: text → property part) ↔
      ∀ part, part <:+ text → property part := by
  constructor
  · intro every part within
    apply every part (within.trans (List.suffix_cons _ _))
    rintro rfl
    exact absurd within.length_le (by simp)
  · intro every part within proper
    rcases List.suffix_cons_iff.1 within with whole | later
    · exact absurd whole proper
    · exact every part later

/-- Nothing is cut exactly if nothing is read behind any character. -/
theorem until?_eq_none_iff {read : Text → Option α} {text : Text} :
    until? read text = none ↔ ∀ part, part <:+ text → part ≠ text → read part = none := by
  induction text with
  | nil =>
      refine ⟨?_, fun _ => rfl⟩
      intro _ part within proper
      exact absurd (List.suffix_nil.1 within) proper
  | cons character text ih =>
      rw [forall_suffix_cons_iff, until?]
      cases here : read text with
      | some found =>
          refine ⟨fun same => absurd same (Option.some_ne_none _), ?_⟩
          intro every
          rw [every text List.suffix_rfl] at here
          cases here
      | none =>
          rw [Option.map_eq_none_iff, ih]
          constructor
          · intro every part within
            by_cases whole : part = text
            · rw [whole, here]
            · exact every part within whole
          · intro every part within _
            exact every part within

/-- A text is cut behind the first of its characters behind which something is read. -/
theorem until?_eq_some_iff {read : Text → Option α} {text front : Text} {found : α} :
    until? read text = some (front, found) ↔
      front ≠ [] ∧ ∃ rest, text = front ++ rest ∧ read rest = some found ∧
        ∀ part, part <:+ front → part ≠ front → part ≠ [] → read (part ++ rest) = none := by
  induction text generalizing front with
  | nil =>
      constructor
      · intro cut
        cases cut
      · rintro ⟨nonempty, rest, whole, -⟩
        exact absurd (List.append_eq_nil_iff.1 whole.symm).1 nonempty
  | cons character text ih =>
      rw [until?]
      constructor
      · intro cut
        cases here : read text with
        | some other =>
            rw [here] at cut
            cases cut
            refine ⟨List.cons_ne_nil _ _, text, rfl, here, ?_⟩
            rw [forall_suffix_cons_iff]
            intro part within ahead
            exact absurd (List.suffix_nil.1 within) ahead
        | none =>
            rw [here] at cut
            obtain ⟨⟨inner, _⟩, cut, same⟩ := Option.map_eq_some_iff.1 cut
            cases same
            obtain ⟨-, rest, rfl, success, unread⟩ := ih.1 cut
            refine ⟨List.cons_ne_nil _ _, rest, rfl, success, ?_⟩
            rw [forall_suffix_cons_iff]
            intro part within ahead
            by_cases whole : part = inner
            · rw [whole, here]
            · exact unread part within whole ahead
      · rintro ⟨nonempty, rest, whole, success, unread⟩
        obtain ⟨first, inner, rfl⟩ := List.exists_cons_of_ne_nil nonempty
        rw [List.cons_append, List.cons.injEq] at whole
        obtain ⟨rfl, rfl⟩ := whole
        rw [forall_suffix_cons_iff] at unread
        by_cases ahead : inner = []
        · subst ahead
          rw [List.nil_append, success]
        · have later : until? read (inner ++ rest) = some (inner, found) :=
            ih.2 ⟨ahead, rest, rfl, success, fun part within _ => unread part within⟩
          rw [unread inner List.suffix_rfl ahead, later]
          rfl

/-- A text is cut behind `front` if something is read there and nothing is read where a part of
`front` is still ahead. -/
theorem until?_append {read : Text → Option α} {front rest : Text} {found : α}
    (nonempty : front ≠ [])
    (unread : ∀ part, part <:+ front → part ≠ [] → read (part ++ rest) = none)
    (success : read rest = some found) : until? read (front ++ rest) = some (front, found) :=
  until?_eq_some_iff.2 ⟨nonempty, rest, rfl, success, fun part within _ => unread part within⟩

/-- Two readers that agree on all parts at the end of a text cut it at the same place, also if one
of them finds a tail behind the text. -/
theorem until?_append_tail {read : Text → Option α} {other : Text → Option β} {image : β → α}
    {text tail : Text}
    (agree : ∀ part, part <:+ text → read (part ++ tail) = (other part).map image)
    (ends : until? other text = none → until? read tail = none) :
    until? read (text ++ tail) =
      (until? other text).map fun (front, found) => (front, image found) := by
  induction text with
  | nil => exact ends rfl
  | cons character text ih =>
      have here := agree text (List.suffix_cons _ _)
      rw [List.cons_append, until?, until?, here]
      cases behind : other text with
      | some found => rfl
      | none =>
          rw [until?, behind] at ends
          have later := ih (fun part within => agree part (within.trans (List.suffix_cons _ _)))
            fun failed => ends (by rw [failed]; rfl)
          simp only [Option.map_none, later, Option.map_map]
          rfl

variable {part front rest : Text} {stop : Char}

theorem prefix_of_after? {lead text : Text} (found : after? lead text = some rest) :
    lead <+: text :=
  ⟨rest, (after?_eq_some_iff.1 found).symm⟩

theorem suffix_of_after? {lead text : Text} (found : after? lead text = some rest) :
    rest <:+ text :=
  ⟨lead, (after?_eq_some_iff.1 found).symm⟩

/-- A lead without a certain character ends in front of it. -/
theorem prefix_append_cons_iff (free : stop ∉ part) :
    part <+: front ++ stop :: rest ↔ part <+: front := by
  induction part generalizing front with
  | nil => simp
  | cons first part ih =>
      obtain ⟨differs, free⟩ := List.ne_and_not_mem_of_not_mem_cons free
      cases front with
      | nil => simp [Ne.symm differs]
      | cons character front => simp [List.cons_prefix_cons, ih free]

/-- A lead is taken off in front of a text that starts with none of its characters. -/
theorem after?_append_of_not_mem {lead : Text}
    (apart : ∀ character ∈ rest.head?, character ∉ lead) :
    after? lead (front ++ rest) = (after? lead front).map (· ++ rest) := by
  induction lead generalizing front with
  | nil => simp
  | cons expected lead ih =>
      have apartLater : ∀ character ∈ rest.head?, character ∉ lead := fun character head =>
        List.not_mem_of_not_mem_cons (apart character head)
      cases front with
      | cons character front =>
          rw [List.cons_append, after?, after?]
          split
          · exact ih apartLater
          · rfl
      | nil =>
          cases rest with
          | nil => rfl
          | cons first rest =>
              have differs : expected ≠ first :=
                (List.ne_of_not_mem_cons (apart first rfl)).symm
              simp [after?, differs]

/-- Readers that agree in front of a text agree behind a lead, too. -/
theorem after?_bind_append {lead : Text} {read : Text → Option α} {other : Text → Option β}
    {image : β → α} (apart : ∀ character ∈ rest.head?, character ∉ lead)
    (agree : ∀ part, part <:+ front → read (part ++ rest) = (other part).map image) :
    (after? lead (front ++ rest)).bind read = ((after? lead front).bind other).map image := by
  rw [after?_append_of_not_mem apart]
  cases found : after? lead front with
  | none => rfl
  | some behind => exact agree behind (suffix_of_after? found)

/-- A part without a certain character is on one side of it. -/
theorem infix_append_cons_iff (free : stop ∉ part) :
    part <:+: front ++ stop :: rest ↔ part <:+: front ∨ part <:+: rest := by
  induction front with
  | nil =>
      rw [List.nil_append, List.infix_cons_iff, List.infix_nil]
      have lead : part <+: [] ++ stop :: rest ↔ part <+: [] := prefix_append_cons_iff free
      rw [List.nil_append, List.prefix_nil] at lead
      rw [lead]
  | cons character front ih =>
      have lead : part <+: (character :: front) ++ stop :: rest ↔ part <+: character :: front :=
        prefix_append_cons_iff free
      rw [List.cons_append, List.infix_cons_iff, ih, ← List.cons_append, lead,
        List.infix_cons_iff, or_assoc]

/-- A part does not start in a text that lacks its first character. -/
theorem infix_append_iff_of_not_mem {first : Char} (free : first ∉ front) :
    first :: part <:+: front ++ rest ↔ first :: part <:+: rest := by
  induction front with
  | nil => rfl
  | cons character front ih =>
      obtain ⟨differs, free⟩ := List.ne_and_not_mem_of_not_mem_cons free
      rw [List.cons_append, List.infix_cons_iff, List.cons_prefix_cons, ih free]
      simp [differs]

/-- A character divides a text in one way only if it may not stand in front. -/
theorem append_cons_inj_left {other behind : Text} (free : stop ∉ front)
    (otherFree : stop ∉ other) :
    front ++ stop :: rest = other ++ stop :: behind ↔ front = other ∧ rest = behind := by
  constructor
  · intro same
    have found : spanTo? stop (front ++ stop :: rest) = some (front, rest) :=
      spanTo?_eq_some_iff.2 ⟨rfl, free⟩
    have otherFound : spanTo? stop (front ++ stop :: rest) = some (other, behind) :=
      spanTo?_eq_some_iff.2 ⟨same, otherFree⟩
    simpa using found.symm.trans otherFound
  · rintro ⟨rfl, rfl⟩
    rfl

/-- A character divides a text in one way only if it may not stand behind. -/
theorem append_cons_inj_right {other behind : Text} (free : stop ∉ rest)
    (otherFree : stop ∉ behind) :
    front ++ stop :: rest = other ++ stop :: behind ↔ front = other ∧ rest = behind := by
  rw [← List.reverse_inj, List.reverse_append, List.reverse_append, List.reverse_cons,
    List.reverse_cons, List.append_assoc, List.append_assoc, List.singleton_append,
    List.singleton_append, append_cons_inj_left (by simpa using free) (by simpa using otherFree),
    List.reverse_inj, List.reverse_inj, and_comm]

theorem trimStart_suffix (text : Text) : trimStart text <:+ text :=
  List.dropWhile_suffix isBlank

/-- Blanks in front of a text are dropped. -/
theorem trimStart_blank_append (blank : allBlank front = true) (text : Text) :
    trimStart (front ++ text) = trimStart text :=
  List.dropWhile_append_of_pos (List.all_eq_true.1 blank)

/-- The leading characters of a kind are the same in front of a text that starts with another
kind. -/
theorem takeWhile_append_of_stop {kind : Char → Bool} (front : Text)
    (stops : ∀ character ∈ rest.head?, kind character = false) :
    (front ++ rest).takeWhile kind = front.takeWhile kind := by
  have unstarted : rest.takeWhile kind = [] := by
    cases rest with
    | nil => rfl
    | cons first rest => exact List.takeWhile_cons_of_neg (by simp [stops first rfl])
  rw [List.takeWhile_append, unstarted, List.append_nil]
  split
  · rename_i whole
    exact ((List.takeWhile_sublist kind).eq_of_length whole).symm
  · rfl

theorem dropWhile_append_of_stop {kind : Char → Bool} (front : Text)
    (stops : ∀ character ∈ rest.head?, kind character = false) :
    (front ++ rest).dropWhile kind = front.dropWhile kind ++ rest := by
  have unstarted : rest.dropWhile kind = rest := by
    cases rest with
    | nil => rfl
    | cons first rest => exact List.dropWhile_cons_of_neg (by simp [stops first rfl])
  rw [List.dropWhile_append, unstarted]
  split
  · rename_i empty
    rw [List.isEmpty_iff.1 empty, List.nil_append]
  · rfl

/-- Kinds that agree on a text have the same leading characters there. -/
theorem takeWhile_congr {kind other : Char → Bool} {text : Text}
    (same : ∀ character ∈ text, kind character = other character) :
    text.takeWhile kind = text.takeWhile other := by
  induction text with
  | nil => rfl
  | cons character text ih =>
      obtain ⟨here, later⟩ := List.forall_mem_cons.1 same
      rw [List.takeWhile_cons, List.takeWhile_cons, here, ih later]

theorem dropWhile_congr {kind other : Char → Bool} {text : Text}
    (same : ∀ character ∈ text, kind character = other character) :
    text.dropWhile kind = text.dropWhile other := by
  induction text with
  | nil => rfl
  | cons character text ih =>
      obtain ⟨here, later⟩ := List.forall_mem_cons.1 same
      rw [List.dropWhile_cons, List.dropWhile_cons, here, ih later]

/-- Blanks are dropped in front of the first visible character, whatever follows the text. -/
theorem trimStart_append_of_ne_nil {text : Text} (visible : trimStart text ≠ []) (rest : Text) :
    trimStart (text ++ rest) = trimStart text ++ rest := by
  rw [trimStart, List.dropWhile_append, ← trimStart, if_neg (by simpa using visible)]

theorem not_mem_of_allBlank {blanks : Text} (blank : allBlank blanks = true) {character : Char}
    (visible : isBlank character = false) : character ∉ blanks := by
  intro member
  rw [List.all_eq_true.1 blank character member] at visible
  cases visible

/-- Blanks do not start with a character of a lead without blanks. -/
theorem head?_not_mem_of_allBlank {lead blanks : Text} (blank : allBlank blanks = true)
    (visible : ∀ character ∈ lead, isBlank character = false) :
    ∀ character ∈ blanks.head?, character ∉ lead := by
  intro character head member
  exact not_mem_of_allBlank blank (visible character member) (List.mem_of_mem_head? head)

/-- Where a part of a text that does not end with a blank is ahead, dropping blanks stops within
that part. -/
theorem exists_trimStart_append (rest : Text)
    (visible : ∀ character ∈ front.getLast?, isBlank character = false)
    (within : part <:+ front) (nonempty : part ≠ []) :
    ∃ core, core ≠ [] ∧ core <:+ part ∧ trimStart (part ++ rest) = core ++ rest := by
  have stays : trimStart part ≠ [] := by
    intro empty
    obtain ⟨before, rfl⟩ := within
    have last := List.getLast?_eq_some_getLast nonempty
    have hidden := List.all_eq_true.1 (trimStart_eq_nil_iff.1 empty) _ (List.getLast_mem nonempty)
    rw [visible _ (by rwa [List.getLast?_append_of_ne_nil _ nonempty])] at hidden
    cases hidden
  exact ⟨trimStart part, stays, trimStart_suffix part, trimStart_append_of_ne_nil stays rest⟩

/-- Behind its leading blanks a text is what trimming leaves of it, and blanks. -/
theorem exists_trimStart_eq (text : Text) :
    ∃ blanks, allBlank blanks = true ∧ trimStart text = trim text ++ blanks := by
  refine ⟨((trimStart text).reverse.takeWhile isBlank).reverse, ?_, ?_⟩
  · rw [allBlank, List.all_reverse]
    exact List.all_takeWhile
  · rw [trim, trimEnd, ← List.reverse_append, List.takeWhile_append_dropWhile,
      List.reverse_reverse]

/-- Where something visible follows, all blanks are dropped. -/
theorem skipBlanks_eq_trimStart {text : Text} (visible : trimStart text ≠ []) :
    skipBlanks text = trimStart text := by
  fun_induction skipBlanks text with
  | case1 => rfl
  | case2 last =>
      rw [trimStart, List.dropWhile_cons] at visible ⊢
      split at visible
      · exact absurd rfl visible
      · rename_i plain
        rw [if_neg plain]
  | case3 first second rest blank ih =>
      have dropped : trimStart (first :: second :: rest) = trimStart (second :: rest) :=
        List.dropWhile_cons_of_pos blank
      rw [dropped] at visible ⊢
      exact ih visible
  | case4 first second rest plain => exact (List.dropWhile_cons_of_neg plain).symm

/-- The end of a text that does not end with a blank does not either. -/
theorem visible_getLast?_of_suffix (within : part <:+ front)
    (visible : ∀ character ∈ front.getLast?, isBlank character = false) :
    ∀ character ∈ part.getLast?, isBlank character = false := by
  intro character last
  obtain ⟨before, rfl⟩ := within
  apply visible
  rw [List.getLast?_append, last]
  rfl

/-- A text that does not end with a blank is all blank only if it is empty. -/
theorem allBlank_eq {text : Text}
    (ended : ∀ character ∈ text.getLast?, isBlank character = false) :
    allBlank text = decide (text = []) := by
  cases shape : text.getLast? with
  | none =>
      rw [List.getLast?_eq_none_iff.1 shape]
      rfl
  | some last =>
      have member : last ∈ text := List.mem_of_getLast? shape
      have blankless : allBlank text = false := by
        rw [allBlank, List.all_eq_false]
        exact ⟨last, member, by simp [ended last shape]⟩
      rw [blankless, decide_eq_false (List.ne_nil_of_mem member)]

/-- A text behind blanks is read as if the blanks were not there. -/
theorem behindBlanks?_append {read : Text → Option α} (blank : allBlank front = true)
    (nonempty : front ≠ []) (visible : ∀ character ∈ rest.head?, isBlank character = false) :
    behindBlanks? read (front ++ rest) = read rest := by
  obtain ⟨first, front, rfl⟩ := List.exists_cons_of_ne_nil nonempty
  simp only [allBlank, List.all_cons, Bool.and_eq_true] at blank
  rw [List.cons_append, behindBlanks?, if_pos blank.1, trimStart_blank_append blank.2,
    trimStart_eq_self visible]

/-- What is read behind blanks is read from the text without them. -/
theorem read_trimStart_of_behindBlanks? {read : Text → Option α} {text : Text} {found : α}
    (behind : behindBlanks? read text = some found) : read (trimStart text) = some found := by
  cases text with
  | nil => cases behind
  | cons first text =>
      rw [behindBlanks?] at behind
      split at behind
      · rename_i blank
        rwa [trimStart, List.dropWhile_cons_of_pos blank]
      · cases behind

/-- What is read behind blanks is read from what follows the whole run of them. -/
theorem exists_of_behindBlanks? {read : Text → Option α} {text : Text} {found : α}
    (behind : behindBlanks? read text = some found) :
    ∃ blanks rest, text = blanks ++ rest ∧ blanks ≠ [] ∧ allBlank blanks = true ∧
      read rest = some found := by
  have read := read_trimStart_of_behindBlanks? behind
  cases text with
  | nil => cases behind
  | cons first text =>
      rw [behindBlanks?] at behind
      split at behind
      · rename_i blank
        refine ⟨(first :: text).takeWhile isBlank, trimStart (first :: text),
          List.takeWhile_append_dropWhile.symm, ?_, List.all_takeWhile, read⟩
        rw [List.takeWhile_cons_of_pos blank]
        exact List.cons_ne_nil _ _
      · cases behind

end Mockup.Text
