import Mathlib.Data.List.Chain
import Mockup.Inline.Reader
import Mockup.Proofs.Text.Cut

/-!
# Inline text is read without a loss

The nodes that a text is read as, written down one after the other, are the text again. Each of
them is delimited as tightly as it can be: a plain run is as long as possible, and an emphasis as
short as possible. The closing delimiter of an emphasis therefore occurs in its content at the very
start or not at all.

Conversely, nodes that are written down are read back, even where the delimiters of two neighbours
touch: reading goes from left to right, and each notation is closed by the first delimiter that can
close it.
-/

namespace Mockup.Inline

variable {text rest : Text} {node : Inline}

/-- What may stand between two delimiters of which the second one is `closing`. -/
structure Enclosed (closing content : Text) : Prop where
  nonempty : content ≠ []
  oneLine : '\n' ∉ content
  /-- The delimiter does not occur behind the first character. -/
  tight : ¬closing <:+: content.tail

/-- What is known of a node that was read: a plain run is a single marker or holds none, and an
emphasis ends as early as it can. Bold around italic runs is read around one run only. -/
def Delimited : Inline → Prop
  | .text content =>
      content = ['*'] ∨ content = ['_'] ∨
        content ≠ [] ∧ ∀ character ∈ content, isMarker character = false
  | .italic content => Enclosed ['_'] content
  | .bold (some content) none => Enclosed ['*'] content
  | .bold none (some [content]) => Enclosed ['*', '_'] content
  | .bold .. => False

/-- Whether a node is a plain run without markers. -/
def isPlain : Inline → Bool
  | .text content => content.all (!isMarker ·)
  | .italic _ | .bold .. => false

theorem enclosed_of_between? {opening closing content : Text} (delimiter : closing ≠ [])
    (found : between? opening closing text = some (content, rest)) :
    Enclosed closing content := by
  obtain ⟨-, nonempty, single⟩ := between?_eq_some found
  refine ⟨nonempty, Text.oneLine_iff.1 single, ?_⟩
  rintro ⟨before, after, inside⟩
  simp only [between?, Option.bind_eq_bind, Option.bind_eq_some_iff] at found
  obtain ⟨inner, -, ⟨front, behind⟩, cut, guarded⟩ := found
  split at guarded
  · cases guarded
    obtain ⟨first, others, rfl⟩ := List.exists_cons_of_ne_nil nonempty
    obtain ⟨-, tail, rfl, -⟩ := Text.until?_eq_some cut
    have split : first :: others = (first :: before) ++ (closing ++ after) := by
      rw [List.cons_append, ← List.append_assoc]
      exact congrArg _ inside.symm
    have unread := Text.until?_shortest cut split (List.cons_ne_nil _ _) (by simp [delimiter])
    simp at unread
  · cases guarded

theorem delimited_of_emphasis? (found : emphasis? text = some (node, rest)) :
    node.Delimited ∧ node.isPlain = false := by
  rw [emphasis?] at found
  split at found
  · rename_i content tail inner
    cases found
    exact ⟨enclosed_of_between? (List.cons_ne_nil _ _) inner, rfl⟩
  · split at found
    · rename_i content tail inner
      cases found
      exact ⟨enclosed_of_between? (List.cons_ne_nil _ _) inner, rfl⟩
    · obtain ⟨⟨content, tail⟩, inner, made⟩ := Option.map_eq_some_iff.1 found
      cases made
      exact ⟨enclosed_of_between? (List.cons_ne_nil _ _) inner, rfl⟩

/-- The nodes of a text are written as the text. -/
theorem flatMap_source_read (text : Text) : (read text).flatMap source = text := by
  fun_induction read text with
  | case1 => rfl
  | case2 character rest node behind found ih =>
      rw [List.flatMap_cons, ih]
      exact (emphasis?_eq_some found).1.symm
  | case3 character rest found marker ih =>
      rw [List.flatMap_cons, ih]
      rfl
  | case4 character rest found plain ih =>
      rw [List.flatMap_cons, ih, source, List.cons_append, List.takeWhile_append_dropWhile]

theorem delimited_of_mem_read : ∀ node ∈ read text, node.Delimited := by
  fun_induction read text with
  | case1 => exact List.forall_mem_nil _
  | case2 character rest node behind found ih =>
      exact List.forall_mem_cons.2 ⟨(delimited_of_emphasis? found).1, ih⟩
  | case3 character rest found marker ih =>
      refine List.forall_mem_cons.2 ⟨?_, ih⟩
      rcases Bool.or_eq_true_iff.1 marker with star | line
      · exact .inl (by rw [of_decide_eq_true star])
      · exact .inr (.inl (by rw [of_decide_eq_true line]))
  | case4 character rest found plain ih =>
      refine List.forall_mem_cons.2 ⟨.inr (.inr ⟨List.cons_ne_nil _ _, ?_⟩), ih⟩
      intro other member
      rcases List.mem_cons.1 member with rfl | member
      · exact eq_false_of_ne_true plain
      · simpa using List.mem_takeWhile_imp member

/-- A text that starts with a marker, or is empty, does not start with a plain run. -/
theorem isPlain_of_mem_head?_read (led : ∀ character ∈ text.head?, isMarker character = true) :
    ∀ node ∈ (read text).head?, node.isPlain = false := by
  cases text with
  | nil => simp [read]
  | cons character rest =>
      have marker : isMarker character = true := led character rfl
      rw [read]
      split
      · rename_i node behind found
        rintro other ⟨⟩
        exact (delimited_of_emphasis? found).2
      · rw [if_pos marker]
        rintro other ⟨⟩
        simp [isPlain, marker]

/-- Plain runs are as long as they can be. -/
theorem isChain_read (text : Text) :
    (read text).IsChain fun node next => ¬(node.isPlain = true ∧ next.isPlain = true) := by
  fun_induction read text with
  | case1 => exact .nil
  | case2 character rest node behind found ih =>
      refine List.isChain_cons.2 ⟨?_, ih⟩
      simp [(delimited_of_emphasis? found).2]
  | case3 character rest found marker ih =>
      refine List.isChain_cons.2 ⟨?_, ih⟩
      simp [isPlain, marker]
  | case4 character rest found plain ih =>
      refine List.isChain_cons.2 ⟨?_, ih⟩
      intro next member both
      have led : ∀ other ∈ (rest.dropWhile (!isMarker ·)).head?, isMarker other = true := by
        intro other first
        have stop := List.head?_dropWhile_not (!isMarker ·) rest
        rw [Option.mem_def.1 first] at stop
        simpa using stop
      have marked := isPlain_of_mem_head?_read led next member
      exact Bool.noConfusion (marked.symm.trans both.2)

/-- Reading inline text loses nothing: the nodes are written as the text, each of them is delimited
as tightly as it can be, and no two plain runs without markers stand side by side. -/
theorem read_exact (text : Text) :
    (read text).flatMap source = text ∧ (∀ node ∈ read text, node.Delimited) ∧
      (read text).IsChain fun node next => ¬(node.isPlain = true ∧ next.isPlain = true) :=
  ⟨flatMap_source_read text, delimited_of_mem_read, isChain_read text⟩

/-- Three stars make a bold star, and a closing delimiter behind a line feed is not looked for. -/
theorem read_exact_stars :
    read "***_a\nb_".toList =
        [.bold (some ['*']) none, .text ['_'], .text "a\nb".toList, .text ['_']] ∧
      Inline.bold (some ['*']) none ∈ read "***_a\nb_".toList ∧ Enclosed ['*'] ['*'] := by
  have found : read "***_a\nb_".toList =
      [.bold (some ['*']) none, .text ['_'], .text "a\nb".toList, .text ['_']] := by cbv
  have member : Inline.bold (some ['*']) none ∈ read "***_a\nb_".toList := by
    rw [found]
    exact List.mem_cons_self
  exact ⟨found, member, (read_exact "***_a\nb_".toList).2.1 _ member⟩

/-! ## Written nodes -/

/-- What a node may hold so that it can be written down: a plain run is free of markers, an
emphasis keeps to one line and does not hold the marker that closes it, and an italic run does not
start like bold around italic. -/
def Written : Inline → Prop
  | .text content => content ≠ [] ∧ '*' ∉ content ∧ '_' ∉ content
  | .italic content =>
      content ≠ [] ∧ '\n' ∉ content ∧ '_' ∉ content ∧ content.head? ≠ some '*'
  | .bold (some content) none => content ≠ [] ∧ '\n' ∉ content ∧ '*' ∉ content
  | .bold none (some [content]) => content ≠ [] ∧ '\n' ∉ content ∧ '*' ∉ content
  | .bold .. => False

theorem isPlain_of_written {content : Text} (written : (Inline.text content).Written) :
    (Inline.text content).isPlain = true := by
  obtain ⟨-, starFree, lineFree⟩ := written
  simp only [isPlain, isMarker, List.all_eq_true]
  intro character member
  have star : character ≠ '*' := fun same => starFree (same ▸ member)
  have line : character ≠ '_' := fun same => lineFree (same ▸ member)
  simp [star, line]

/-- Content that does not hold the first character of its closing delimiter is found again. -/
theorem between?_append (opening closing rest : Text) {mark : Char} {content : Text}
    (nonempty : content ≠ []) (single : '\n' ∉ content) (free : mark ∉ content) :
    between? opening (mark :: closing) (opening ++ (content ++ mark :: (closing ++ rest))) =
      some (content, rest) := by
  have unread : ∀ part, part <:+ content → part ≠ [] →
      Text.after? (mark :: closing) (part ++ mark :: (closing ++ rest)) = none := by
    intro part within filled
    obtain ⟨first, others, rfl⟩ := List.exists_cons_of_ne_nil filled
    have differs : mark ≠ first := by
      rintro rfl
      exact free (within.subset List.mem_cons_self)
    rw [List.cons_append, Text.after?, if_neg differs]
  have closed : Text.after? (mark :: closing) (mark :: (closing ++ rest)) = some rest :=
    Text.after?_append (mark :: closing) rest
  simp [between?, Text.until?_append nonempty unread closed, Text.oneLine_iff.2 single]

/-- Nothing is delimited where the opening delimiter does not stand. -/
theorem between?_eq_none {opening closing : Text} (absent : ¬opening <+: text) :
    between? opening closing text = none := by
  have unopened : Text.after? opening text = none := by
    rw [← Option.not_isSome_iff_eq_none, Text.after?_isSome_iff]
    exact absent
  rw [between?, unopened]
  rfl

/-- An emphasis that was written down is read back, whatever follows it. -/
theorem emphasis?_source_append (written : node.Written) (emphasized : node.isPlain = false) :
    emphasis? (node.source ++ rest) = some (node, rest) := by
  match node, written with
  | .text content, written =>
      rw [isPlain_of_written written] at emphasized
      cases emphasized
  | .italic content, ⟨nonempty, single, free, start⟩ =>
      have shape : (Inline.italic content).source ++ rest = '_' :: (content ++ '_' :: rest) := by
        simp [source]
      have notBoth : ¬['_', '*'] <+: '_' :: (content ++ '_' :: rest) := by
        obtain ⟨first, others, rfl⟩ := List.exists_cons_of_ne_nil nonempty
        simpa [List.cons_prefix_cons, eq_comm] using start
      have notBold : ¬['*'] <+: '_' :: (content ++ '_' :: rest) := by
        simp [List.cons_prefix_cons]
      have italic : between? ['_'] ['_'] ('_' :: (content ++ '_' :: rest)) = some (content, rest) :=
        between?_append ['_'] [] rest nonempty single free
      rw [shape, emphasis?, between?_eq_none notBoth, between?_eq_none notBold, italic]
      rfl
  | .bold (some content) none, ⟨nonempty, single, free⟩ =>
      have shape : (Inline.bold (some content) none).source ++ rest =
          '*' :: (content ++ '*' :: rest) := by
        simp [source]
      have notBoth : ¬['_', '*'] <+: '*' :: (content ++ '*' :: rest) := by
        simp [List.cons_prefix_cons]
      have bold : between? ['*'] ['*'] ('*' :: (content ++ '*' :: rest)) = some (content, rest) :=
        between?_append ['*'] [] rest nonempty single free
      rw [shape, emphasis?, between?_eq_none notBoth, bold]
  | .bold none (some [content]), ⟨nonempty, single, free⟩ =>
      have shape : (Inline.bold none (some [content])).source ++ rest =
          '_' :: '*' :: (content ++ '*' :: '_' :: rest) := by
        simp [source]
      have both : between? ['_', '*'] ['*', '_'] ('_' :: '*' :: (content ++ '*' :: '_' :: rest)) =
          some (content, rest) :=
        between?_append ['_', '*'] ['_'] rest nonempty single free
      rw [shape, emphasis?, both]

theorem read_of_emphasis? (found : emphasis? text = some (node, rest)) :
    read text = node :: read rest := by
  cases text with
  | nil => exact absurd (length_lt_of_emphasis? found) (Nat.not_lt_zero _)
  | cons character others =>
      rw [read]
      split
      · rename_i other behind again
        rw [found] at again
        cases again
        rfl
      · rename_i failed
        rw [found] at failed
        cases failed

/-- An emphasis starts with a marker. -/
theorem isMarker_of_emphasis? (found : emphasis? text = some (node, rest)) :
    ∀ character ∈ text.head?, isMarker character = true := by
  have led : ∀ {mark : Char} {opening closing content behind : Text},
      between? (mark :: opening) closing text = some (content, behind) →
        text.head? = some mark := by
    intro mark opening closing content behind inner
    rw [(between?_eq_some inner).1]
    rfl
  rw [emphasis?] at found
  split at found
  · rename_i inner
    simp [led inner, isMarker]
  · split at found
    · rename_i inner
      simp [led inner, isMarker]
    · obtain ⟨_, inner, -⟩ := Option.map_eq_some_iff.1 found
      simp [led inner, isMarker]

/-- A plain run that ends with the text or in front of a marker is read as a whole. -/
theorem read_plain_append {content : Text} (written : (Inline.text content).Written)
    (ended : ∀ character ∈ rest.head?, isMarker character = true) :
    read (content ++ rest) = .text content :: read rest := by
  have plain := isPlain_of_written written
  obtain ⟨first, others, rfl⟩ := List.exists_cons_of_ne_nil written.1
  simp only [isPlain, List.all_cons, Bool.and_eq_true, Bool.not_eq_true'] at plain
  have stops : rest.takeWhile (!isMarker ·) = [] ∧ rest.dropWhile (!isMarker ·) = rest := by
    cases rest with
    | nil => exact ⟨rfl, rfl⟩
    | cons marker rest =>
        have marked := ended marker rfl
        simp [marked]
  rw [List.cons_append, read]
  split
  · rename_i found
    rw [isMarker_of_emphasis? found first rfl] at plain
    cases plain.1
  · rw [if_neg (by simp [plain.1]), List.takeWhile_append_of_pos, List.dropWhile_append_of_pos,
      stops.1, stops.2, List.append_nil]
    · simpa using plain.2
    · simpa using plain.2

/-- Inline text that was written down is read back: nodes that can be written, with no two plain
runs side by side, are what their notation is read as. The delimiters of neighbours may touch. -/
theorem read_flatMap_source {nodes : List Inline} (written : ∀ node ∈ nodes, node.Written)
    (apart : nodes.IsChain fun node next => ¬(node.isPlain = true ∧ next.isPlain = true)) :
    read (nodes.flatMap source) = nodes := by
  induction nodes with
  | nil => simp [read]
  | cons node nodes ih =>
      obtain ⟨first, others⟩ := List.forall_mem_cons.1 written
      obtain ⟨neighbour, later⟩ := List.isChain_cons.1 apart
      rw [List.flatMap_cons]
      cases emphasized : node.isPlain with
      | false => rw [read_of_emphasis? (emphasis?_source_append first emphasized), ih others later]
      | true =>
          have ended : ∀ character ∈ (nodes.flatMap source).head?, isMarker character = true := by
            cases nodes with
            | nil => simp
            | cons next more =>
                have strong : next.isPlain = false := by
                  simpa [emphasized] using neighbour next rfl
                rw [List.flatMap_cons]
                exact isMarker_of_emphasis?
                  (emphasis?_source_append (others next List.mem_cons_self) strong)
          cases node with
          | text content =>
              rw [source, read_plain_append first ended, ih others later]
          | italic | bold => cases emphasized

/-- Delimiters touch: one underscore closes an italic run and the next one opens another, and a
star that closes bold stands in front of bold around italic. -/
theorem read_flatMap_source_touching :
    let nodes : List Inline := [.italic ['a'], .italic "b*".toList, .bold (some "_c".toList) none,
      .bold none (some ["d_".toList]), .text "x\n".toList]
    (∀ node ∈ nodes, node.Written) ∧
      (nodes.IsChain fun node next => ¬(node.isPlain = true ∧ next.isPlain = true)) ∧
      read "_a__b*_*_c*_*d_*_x\n".toList = nodes := by
  intro nodes
  have written : ∀ node ∈ nodes, node.Written := by simp [nodes, Written]
  have apart : nodes.IsChain fun node next => ¬(node.isPlain = true ∧ next.isPlain = true) := by
    simp [nodes, isPlain]
  exact ⟨written, apart, read_flatMap_source written apart⟩

end Mockup.Inline
