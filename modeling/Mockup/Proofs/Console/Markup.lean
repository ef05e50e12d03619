import Mockup.Console.Markup

/-!
# Escaped text in messages

Text from outside is escaped before it becomes part of a message. Wherever it stands there, its tags
are found as they were, each with an odd number of backslashes in front of it, so that none of them
counts. A message whose own tags fit together can then always be shown. The one thing that is not
settled by escaping is whether the tag behind the text still counts, since backslashes at the end of
the text stand in front of it; but a style that is not closed does no harm.
-/

namespace Mockup.Markup

/-- What has been read of a tag, the last character first. -/
def Progress.pending : Progress → Text
  | .outside => []
  | .opened => ['[']
  | .inside content => content ++ ['[']

/-- Wherever the text in `front` and in the tag that is being read stands, reading it gets as far as
it did. -/
def Leads (progress : Progress) (front : Text) : Prop :=
  ∀ before rest, readFrom .outside before ((progress.pending ++ front).reverse ++ rest) =
    readFrom progress (front ++ before) rest

/-- Whether reading a text gets to its end without a whole tag. -/
def IsTagless (text : Text) : Prop :=
  ∃ progress front, Leads progress front ∧ (progress.pending ++ front).reverse = text

/-- Whether a text can stand in the brackets of a tag. -/
def IsContent (content : Text) : Prop :=
  ∃ first more, content = first :: more ∧ startsTag first ∧ '[' ∉ more ∧ ']' ∉ more

/-- Whether a text is cut at its tags. -/
def Cut : Markup → Prop
  | .plain text => IsTagless text
  | .tagged front content rest => IsTagless front ∧ IsContent content ∧ rest.Cut

/-- An opening bracket ends what has been read of a tag. -/
theorem readFrom_bracket (progress : Progress) (front rest : Text) :
    readFrom progress front ('[' :: rest) = readFrom .opened (progress.pending ++ front) rest := by
  cases progress <;> simp [readFrom, startsTag, Progress.pending]

/-- Backslashes in front of an opening bracket change nothing about it. -/
theorem readFrom_slashes (progress : Progress) (count : Nat) (front rest : Text) :
    readFrom progress front (List.replicate count '\\' ++ '[' :: rest) =
      readFrom .opened (List.replicate count '\\' ++ (progress.pending ++ front)) rest := by
  induction count generalizing progress front with
  | zero => exact readFrom_bracket progress front rest
  | succ count ih =>
    have shift (text : Text) : List.replicate count '\\' ++ '\\' :: text =
        '\\' :: (List.replicate count '\\' ++ text) := by
      rw [← List.cons_append, ← List.replicate_succ, List.replicate_succ', List.append_assoc,
        List.singleton_append]
    rw [List.replicate_succ, List.cons_append, List.cons_append]
    cases progress <;> simp [readFrom, startsTag, ih, Progress.pending, shift]

/-- The bracket behind a text without tags opens one, also if there are backslashes between them. -/
theorem IsTagless.readFrom {text : Text} (tagless : IsTagless text) (count : Nat)
    (before rest : Text) :
    readFrom .outside before (text ++ (List.replicate count '\\' ++ '[' :: rest)) =
      readFrom .opened ((text ++ List.replicate count '\\').reverse ++ before) rest := by
  obtain ⟨progress, front, leads, rfl⟩ := tagless
  rw [leads, readFrom_slashes]
  simp

/-- A tag is read up to its closing bracket. -/
theorem IsContent.readFrom {content : Text} (isContent : IsContent content) (front rest : Text) :
    readFrom .opened front (content ++ ']' :: rest) =
      .tagged front.reverse content (readFrom .outside [] rest) := by
  obtain ⟨first, more, rfl, starts, noOpening, noClosing⟩ := isContent
  have inside (read : Text) : Markup.readFrom (.inside read) front (more ++ ']' :: rest) =
      .tagged front.reverse (read.reverse ++ more) (Markup.readFrom .outside [] rest) := by
    induction more generalizing read with
    | nil => simp [Markup.readFrom]
    | cons character more ih =>
      rw [List.mem_cons, not_or] at noOpening noClosing
      rw [List.cons_append, Markup.readFrom, if_neg (Ne.symm noClosing.1),
        if_neg (Ne.symm noOpening.1), ih noOpening.2 noClosing.2]
      simp
  rw [List.cons_append, Markup.readFrom, if_pos starts, inside]
  simp

/-- Reading one more character without completing a tag. -/
theorem Leads.step {progress next : Progress} {front behind : Text} (character : Char)
    (leads : Leads progress front)
    (read : ∀ before rest, readFrom progress (front ++ before) (character :: rest) =
      readFrom next (behind ++ before) rest)
    (same : next.pending ++ behind = character :: (progress.pending ++ front)) :
    Leads next behind := by
  intro before rest
  rw [← read, ← leads, same]
  simp

/-- What is true while a text is read: nothing in front of the tag that is being read is one, and
what has been read of the tag may stand in it. -/
structure Reached (progress : Progress) (front : Text) : Prop where
  leads : Leads progress front
  tagless : IsTagless front.reverse
  content : ∀ content, progress = .inside content → IsContent content.reverse

/-- Outside of tags, how far reading gets says everything. -/
theorem Leads.reached {front : Text} (leads : Leads .outside front) : Reached .outside front :=
  ⟨leads, ⟨_, _, leads, rfl⟩, nofun⟩

theorem reached_nil : Reached .outside [] :=
  Leads.reached fun _ _ => rfl

namespace Reached

variable {progress : Progress} {front content : Text} {character : Char}

/-- An opening bracket may start a tag. -/
theorem opens (reached : Reached progress front) : Reached .opened (progress.pending ++ front) := by
  refine ⟨reached.leads.step '[' (fun before rest => ?_) rfl, ⟨_, _, reached.leads, rfl⟩, nofun⟩
  rw [readFrom_bracket, List.append_assoc]

/-- The first character of a tag. -/
theorem starts (reached : Reached .opened front) (isStart : startsTag character) :
    Reached (.inside [character]) front where
  leads := reached.leads.step character (fun _ _ => by rw [readFrom, if_pos isStart]) rfl
  tagless := reached.tagless
  content := by
    rintro _ ⟨⟩
    exact ⟨character, [], rfl, isStart, List.not_mem_nil, List.not_mem_nil⟩

/-- Another character of a tag. -/
theorem goesOn (reached : Reached (.inside content) front) (notOpening : character ≠ '[')
    (notClosing : character ≠ ']') : Reached (.inside (character :: content)) front where
  leads := reached.leads.step character
    (fun _ _ => by rw [readFrom, if_neg notClosing, if_neg notOpening]) rfl
  tagless := reached.tagless
  content := by
    rintro _ ⟨⟩
    obtain ⟨first, more, isContent, isStart, noOpening, noClosing⟩ := reached.content content rfl
    refine ⟨first, more ++ [character], ?_, isStart, ?_, ?_⟩
    · rw [List.reverse_cons, isContent, List.cons_append]
    · simpa [noOpening] using Ne.symm notOpening
    · simpa [noClosing] using Ne.symm notClosing

/-- Cutting a text finds all its tags. -/
theorem cut (reached : Reached progress front) (text : Text) :
    (readFrom progress front text).Cut := by
  induction text generalizing progress front with
  | nil =>
    have whole : readFrom progress front [] = .plain (progress.pending ++ front).reverse := by
      cases progress <;> simp [readFrom, Progress.pending]
    rw [whole]
    exact ⟨_, _, reached.leads, rfl⟩
  | cons character rest ih =>
    by_cases opening : character = '['
    · rw [opening, readFrom_bracket]
      exact ih reached.opens
    cases progress with
    | outside =>
      rw [readFrom, if_neg opening]
      exact ih <| Leads.reached <| reached.leads.step character
        (fun _ _ => by rw [readFrom, if_neg opening, List.cons_append]) rfl
    | opened =>
      rw [readFrom, if_neg opening]
      split
      case isTrue isStart => exact ih (reached.starts isStart)
      case isFalse other =>
        exact ih <| Leads.reached <| reached.leads.step character
          (fun _ _ => by rw [readFrom, if_neg other, if_neg opening]; rfl) rfl
    | inside content =>
      rw [readFrom, if_neg opening]
      split
      case isTrue closing => exact ⟨reached.tagless, reached.content content rfl, ih reached_nil⟩
      case isFalse other => exact ih (reached.goesOn opening other)

end Reached

/-- The pieces of a text between its tags have no tags. -/
theorem cut_read (text : Text) : (read text).Cut :=
  reached_nil.cut text

/-! ## What escaping does -/

theorem slashes_append_replicate (text : Text) (count : Nat) :
    slashes (text ++ List.replicate count '\\') = slashes text + count := by
  simp only [slashes, List.reverse_append, List.reverse_replicate]
  rw [List.takeWhile_append_of_pos (by simp), List.length_append, List.length_replicate,
    Nat.add_comm]

/-- What stands in front of a text does not matter if it has no backslash at its end. -/
theorem slashes_append {before : Text} (noSlash : slashes before = 0) (text : Text) :
    slashes (before ++ text) = slashes text := by
  have nothing : before.reverse.takeWhile (· = '\\') = [] := List.length_eq_zero_iff.mp noSlash
  simp only [slashes, List.reverse_append, List.takeWhile_append, nothing, List.append_nil]
  split
  case isTrue all => exact all.symm
  case isFalse => rfl

theorem escape_eq (text : Text) :
    ∃ count, escape text = (read text).escaped ++ List.replicate count '\\' := by
  by_cases single : slashes (read text).escaped = 1
  · exact ⟨1, if_pos single⟩
  · exact ⟨0, by rw [List.replicate_zero, List.append_nil]; exact if_neg single⟩

/-- In front of a bracket an escaped text has no tag that counts, wherever it stands. -/
theorem Cut.faultFrom?_eq {markup : Markup} (cut : markup.Cut) (tags : List Tag)
    (styles : List Text) (count : Nat) (before rest : Text)
    (noSlash : slashes before.reverse = 0) :
    ∃ front,
      (readFrom .outside before
        (markup.escaped ++ (List.replicate count '\\' ++ '[' :: rest))).faultFrom? tags styles =
        (readFrom .opened front rest).faultFrom? tags styles := by
  induction markup generalizing before with
  | plain text => exact ⟨_, by rw [escaped, IsTagless.readFrom cut]⟩
  | tagged front content more ih =>
    obtain ⟨tagless, isContent, cut⟩ := cut
    obtain ⟨last, found⟩ := ih cut [] rfl
    refine ⟨last, ?_⟩
    have odd : slashes (before.reverse ++ (front ++ List.replicate (slashes front + 1) '\\')) % 2 =
        1 := by
      rw [slashes_append noSlash, slashes_append_replicate]
      omega
    simp only [escaped, List.append_assoc, List.cons_append]
    rw [tagless.readFrom, isContent.readFrom, List.reverse_append, List.reverse_reverse, faultFrom?,
      if_pos odd, found]

/-- What the name of a style has to be for its tags to fit together. -/
structure NamesStyle (name : Text) : Prop where
  isContent : IsContent name
  notClosing : name.head? ≠ some '/'
  noParameters : Text.spanTo? '=' name = none
  trimmed : Text.trim name = name
  normal : Style.normalize name = .ok name

namespace NamesStyle

variable {name : Text}

theorem isContent_slash (names : NamesStyle name) : IsContent ('/' :: name) := by
  obtain ⟨first, more, same, isStart, noOpening, noClosing⟩ := names.isContent
  have notBracket : first ≠ '[' ∧ first ≠ ']' := by
    constructor <;> rintro rfl <;> simp [startsTag] at isStart
  refine ⟨'/', name, rfl, rfl, ?_, ?_⟩
  · simpa [same, noOpening] using Ne.symm notBracket.1
  · simpa [same, noClosing] using Ne.symm notBracket.2

/-- A style in normal form has colours that can be read. -/
theorem fault?_eq_none (names : NamesStyle name) : Style.fault? name = none := by
  have normal := names.normal
  unfold Style.normalize at normal
  unfold Style.fault?
  split
  case h_1 cause found =>
    rw [found] at normal
    cases normal
  case h_2 => rfl

/-- The tag that switches the style off fits if nothing but that style is on. -/
theorem faultFrom?_closing (names : NamesStyle name) (front : Text) :
    (readFrom .opened front ('/' :: name ++ [']'])).faultFrom? [⟨name, none⟩] [] = none := by
  have content : Tag.ofContent ('/' :: name) = ⟨'/' :: name, none⟩ := by
    simp [Tag.ofContent, Text.spanTo?, names.noParameters]
  have closed : Tag.close (Text.trim name) [⟨name, none⟩] = .ok (⟨name, none⟩, []) := by
    obtain ⟨first, more, same, -⟩ := names.isContent
    have nonempty : name ≠ [] := by simp [same]
    simp [names.trimmed, Tag.close, nonempty, names.normal, Tag.takeOut?]
  have faultless : Tag.fault? ⟨name, none⟩ = none := by
    unfold Tag.fault?
    split <;> simp_all
  rw [names.isContent_slash.readFrom front [], faultFrom?]
  split
  case isTrue escaped => simp [readFrom, faultFrom?, Tag.style, names.fault?_eq_none]
  case isFalse plain =>
    simp [content, closed, faultless, readFrom, faultFrom?, Tag.style, names.fault?_eq_none]

/-- The tag that switches the style on. -/
theorem faultFrom?_opening (names : NamesStyle name) (rest : Markup) :
    (tagged [] name rest).faultFrom? [] [] = rest.faultFrom? [⟨name, none⟩] [] := by
  have content : Tag.ofContent name = ⟨name, none⟩ := by
    simp [Tag.ofContent, names.noParameters]
  have plain : slashes [] % 2 ≠ 1 := by decide
  simp only [faultFrom?, if_neg plain, content]
  split
  case h_1 => exact absurd rfl names.notClosing
  case h_2 => simp [names.normal]

end NamesStyle

theorem readFrom_append {text : Text} (noTag : '[' ∉ text) (front rest : Text) :
    readFrom .outside front (text ++ rest) = readFrom .outside (text.reverse ++ front) rest := by
  induction text generalizing front with
  | nil => rfl
  | cons character text ih =>
    rw [List.mem_cons, not_or] at noTag
    rw [List.cons_append, readFrom, if_neg (Ne.symm noTag.1), ih noTag.2]
    simp

/-- A message in a style can be shown if it ends with an escaped text, and has no tag before it. -/
theorem fault?_styled_escape {style : String} (names : NamesStyle style.toList) (before : Text)
    (noTag : '[' ∉ before) (noSlash : slashes before = 0) (text : Text) :
    (read (styled style (before ++ escape text))).fault? = none := by
  obtain ⟨count, same⟩ := escape_eq text
  obtain ⟨front, found⟩ := (cut_read text).faultFrom?_eq [⟨style.toList, none⟩] [] count
    before.reverse ('/' :: style.toList ++ [']']) (by rwa [List.reverse_reverse])
  have parts : styled style (before ++ escape text) =
      '[' :: (style.toList ++ ']' :: (before ++ ((read text).escaped ++
        (List.replicate count '\\' ++ '[' :: ('/' :: style.toList ++ [']']))))) := by
    simp [styled, same]
  rw [parts, read, readFrom_bracket, names.isContent.readFrom, readFrom_append noTag,
    List.append_nil, Progress.pending, List.append_nil, List.reverse_nil, fault?,
    names.faultFrom?_opening, found]
  exact names.faultFrom?_closing front

theorem namesStyle_green : NamesStyle "green".toList where
  isContent := ⟨'g', "reen".toList, rfl, by decide, by decide, by decide⟩
  notClosing := by decide
  noParameters := by decide
  trimmed := by decide
  normal := by rfl

theorem namesStyle_yellow : NamesStyle "yellow".toList where
  isContent := ⟨'y', "ellow".toList, rfl, by decide, by decide, by decide⟩
  notClosing := by decide
  noParameters := by decide
  trimmed := by decide
  normal := by rfl

end Mockup.Markup
