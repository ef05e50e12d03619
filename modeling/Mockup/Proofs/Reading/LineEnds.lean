import Mockup.Compile
import Mockup.Proofs.Reading.Closing
import Mockup.Text.File

/-!
# Line ends and files

The lines of a text are the same whether a line feed ends them or a carriage return in front of it:
a text drops the return when it is cut into lines, and a file drops it when its bytes are decoded.
So a text without returns is read with the same result in four ways, from memory and from a file,
with either kind of line end. Compiling then differs in nothing but the source that it names.
-/

namespace Mockup

/-- The text with a carriage return in front of each line feed. -/
def Text.withReturns (text : Text) : Text :=
  text.flatMap fun character => if character = '\n' then ['\r', '\n'] else [character]

namespace Text

variable {text : Text}

theorem withReturns_lineFeed (rest : Text) :
    withReturns ('\n' :: rest) = '\r' :: '\n' :: withReturns rest := rfl

theorem withReturns_cons {character : Char} (inside : character ≠ '\n') (rest : Text) :
    withReturns (character :: rest) = character :: withReturns rest := by
  rw [withReturns, List.flatMap_cons, if_neg inside]
  rfl

theorem unifyLineEnds_cons {character : Char} (differs : character ≠ '\r') (rest : Text) :
    unifyLineEnds (character :: rest) = character :: unifyLineEnds rest := by
  rw [unifyLineEnds, if_neg differs]
  rintro _ rfl
  exact fun _ => differs rfl

theorem unifyLineEnds_of_not_mem (unmarked : '\r' ∉ text) : unifyLineEnds text = text := by
  induction text with
  | nil => rfl
  | cons character rest ih =>
      obtain ⟨differs, others⟩ := List.ne_and_not_mem_of_not_mem_cons unmarked
      rw [unifyLineEnds_cons (Ne.symm differs), ih others]

theorem unifyLineEnds_withReturns (unmarked : '\r' ∉ text) :
    unifyLineEnds (withReturns text) = text := by
  induction text with
  | nil => rfl
  | cons character rest ih =>
      obtain ⟨differs, others⟩ := List.ne_and_not_mem_of_not_mem_cons unmarked
      by_cases feed : character = '\n'
      · rw [feed, withReturns_lineFeed, unifyLineEnds, ih others]
      · rw [withReturns_cons feed, unifyLineEnds_cons (Ne.symm differs), ih others]

/-- A character in front of a line is not touched when the return at its end is dropped. -/
theorem dropReturn_cons {character : Char} (differs : character ≠ '\r') (line : Text) :
    (before? ['\r'] (character :: line)).getD (character :: line) =
      character :: (before? ['\r'] line).getD line := by
  cases found : before? ['\r'] line with
  | some front =>
      have split : character :: line = (character :: front) ++ ['\r'] :=
        congrArg _ (before?_eq_some_iff.1 found)
      rw [before?_eq_some_iff.2 split]
      rfl
  | none =>
      cases longer : before? ['\r'] (character :: line) with
      | none => rfl
      | some front =>
          have split := before?_eq_some_iff.1 longer
          cases front with
          | nil => exact absurd (List.cons.inj split).1 differs
          | cons first front =>
              rw [before?_eq_some_iff.2 (List.cons.inj split).2] at found
              cases found

end Text

namespace Reading

variable {text : Text}

/-- A character that ends no line stands at the start of the first one. -/
theorem exists_lines_cons {character : Char} (inside : character ≠ '\n')
    (differs : character ≠ '\r') (rest : Text) :
    ∃ line more, lines rest = line :: more ∧
      lines (character :: rest) = (character :: line) :: more := by
  rw [lines, lines, Text.splitOn, if_neg inside]
  cases pieces : Text.splitOn '\n' rest with
  | nil => exact absurd pieces (Text.splitOn_ne_nil _ _)
  | cons piece more =>
      refine ⟨_, _, List.map_cons, ?_⟩
      rw [List.map_cons, Text.dropReturn_cons differs]

theorem lines_withReturns (unmarked : '\r' ∉ text) : lines text.withReturns = lines text := by
  induction text with
  | nil => rfl
  | cons character rest ih =>
      obtain ⟨differs, others⟩ := List.ne_and_not_mem_of_not_mem_cons unmarked
      have same := ih others
      by_cases feed : character = '\n'
      · have marked := lines_append ['\r'] (Text.withReturns rest)
        have plain := lines_append [] rest
        rw [same] at marked
        rw [feed, Text.withReturns_lineFeed]
        exact marked.trans plain.symm
      · obtain ⟨line, more, cut, longer⟩ := exists_lines_cons feed (Ne.symm differs) rest
        obtain ⟨other, further, cutMarked, longerMarked⟩ :=
          exists_lines_cons feed (Ne.symm differs) (Text.withReturns rest)
        rw [same, cut] at cutMarked
        cases cutMarked
        rw [Text.withReturns_cons feed]
        exact longerMarked.trans longer.symm

/-- What is read of a file, if its bytes are a text. -/
def ofBytes? (options : Options) (registry : Registry) (bytes : ByteArray) : Option Reading :=
  (Text.ofBytes? bytes).map (read options registry)

end Reading

/-! ## Sources -/

namespace Document

/-- The answer of a compilation without the source that it names. -/
def unnamed : Except CompileRequestError Compiled → Except CompileRequestError Compiled
  | .error (.failed (.refused first more _)) => .error (.failed (.refused first more none))
  | .error cause => .error cause
  | .ok compiled => .ok { compiled with source := none }

/-- The source of a document is named, and nothing else is done with it. -/
theorem unnamed_compile (document : Document) (targetName : Text) (source : Option Text) :
    unnamed (document.compile targetName source) = document.compile targetName none := by
  obtain ⟨blocks, errors⟩ := document
  match errors with
  | some (first :: more) => rfl
  | none | some [] =>
      simp only [compile, compileTo]
      cases Target.ofName? targetName with
      | none => rfl
      | some target =>
          dsimp only
          cases target.render blocks with
          | error cause => rfl
          | ok output => rfl

end Document

namespace Reading

theorem read_withReturns (options : Options) (registry : Registry) (unmarked : '\r' ∉ text) :
    read options registry (Text.withReturns text) = read options registry text := by
  rw [read, lines_withReturns unmarked, read]

theorem ofBytes?_toBytes (options : Options) (registry : Registry) (text : Text) :
    ofBytes? options registry (Text.toBytes text) =
      some (read options registry (Text.unifyLineEnds text)) := by
  rw [ofBytes?, Text.ofBytes?_toBytes, Option.map_some]

/-- A text without carriage returns is read with the same result as the same text with a return in
front of each line feed, and so is a file with either content. What was read from such a file
compiles to the same answer as what was read from such a text, but for the source that is named. -/
theorem read_lineEnds (options : Options) (registry : Registry) {text : Text}
    (unmarked : '\r' ∉ text) (targetName path : Text) :
    ∀ content ∈ [text, Text.withReturns text],
      read options registry content = read options registry text ∧
      ofBytes? options registry (Text.toBytes content) = some (read options registry text) ∧
      (ofBytes? options registry (Text.toBytes content)).map (fun reading =>
          Document.unnamed (reading.document.compile targetName (some path))) =
        some ((read options registry content).document.compile targetName none) := by
  intro content listed
  have direct : read options registry content = read options registry text := by
    rcases List.mem_pair.1 listed with rfl | rfl
    · rfl
    · exact read_withReturns options registry unmarked
  have decoded : Text.unifyLineEnds content = text := by
    rcases List.mem_pair.1 listed with rfl | rfl
    · exact Text.unifyLineEnds_of_not_mem unmarked
    · exact Text.unifyLineEnds_withReturns unmarked
  have filed : ofBytes? options registry (Text.toBytes content) =
      some (read options registry text) := by
    rw [ofBytes?_toBytes, decoded]
  refine ⟨direct, filed, ?_⟩
  rw [filed, direct, Option.map_some, Document.unnamed_compile]

/-- The first card ends in front of the second one, also where a return stands behind the line that
closes it and lines are not trimmed. -/
theorem read_lineEnds_cards :
    let options : Options := ⟨false, true, none⟩
    let file := Text.toBytes "[--\r\n--]\r\n[--\r\n--]".toList
    '\r' ∉ "[--\n--]\n[--\n--]".toList ∧
      Text.withReturns "[--\n--]\n[--\n--]".toList = "[--\r\n--]\r\n[--\r\n--]".toList ∧
      (read options Registry.builtin "[--\r\n--]\r\n[--\r\n--]".toList).blocks =
        [.box (.card none) [], .box (.card none) []] ∧
      (ofBytes? options Registry.builtin file).map Reading.blocks =
        some [.box (.card none) [], .box (.card none) []] := by
  intro options file
  have unmarked : '\r' ∉ "[--\n--]\n[--\n--]".toList := by decide
  have marked : Text.withReturns "[--\n--]\n[--\n--]".toList =
      "[--\r\n--]\r\n[--\r\n--]".toList := rfl
  have plain : (read options Registry.builtin "[--\n--]\n[--\n--]".toList).blocks =
      [.box (.card none) [], .box (.card none) []] := rfl
  obtain ⟨direct, filed, -⟩ := read_lineEnds options Registry.builtin unmarked [] [] _
    (List.mem_pair.2 (.inr rfl))
  rw [marked] at direct filed
  refine ⟨unmarked, marked, ?_, ?_⟩
  · rw [direct, plain]
  · rw [filed, Option.map_some, plain]

end Reading

end Mockup
