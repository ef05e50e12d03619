import Mockup.Command.FileTree

/-!
# What writing does to a file tree

Writing a file makes directories, which changes no file, and then stores the file, which changes no
other one. A directory stays a directory throughout, so that the path leads to the stored file
afterwards.
-/

namespace Mockup.FileTree

variable {tree changed : FileTree} {here start location next : Location} {name last : Text}
variable {front names : List Text} {path : Path} {bytes : ByteArray} {cause : FileError}

theorem lookUp_eq_ok_iff : tree.lookUp location name = .ok next ↔
    name = Path.up ∧ next = location.dropLast ∨
      name ≠ Path.up ∧ ¬ Path.isLongName name ∧ next = location ++ [name] ∧
        (tree.isDirectory next ∨ (tree.get? next).isSome) := by
  unfold lookUp
  grind

theorem enter_eq_ok_iff : tree.enter location name = .ok next ↔
    tree.lookUp location name = .ok next ∧ tree.isDirectory next := by
  unfold enter
  grind

/-- Names lead where they did if directories stay directories. -/
theorem walk_mono (kept : ∀ location, tree.isDirectory location → changed.isDirectory location)
    (led : tree.walk location names = .ok next) : changed.walk location names = .ok next := by
  induction names generalizing location with
  | nil => exact led
  | cons name names ih =>
    rw [walk] at led ⊢
    split at led
    case h_1 => cases led
    case h_2 between entered =>
      have same : changed.enter location name = .ok between := by
        rw [enter_eq_ok_iff, lookUp_eq_ok_iff] at entered ⊢
        obtain ⟨up | ⟨down, short, child, -⟩, isDirectory⟩ := entered
        · exact ⟨.inl up, kept _ isDirectory⟩
        · exact ⟨.inr ⟨down, short, child, .inl (kept _ isDirectory)⟩, kept _ isDirectory⟩
      rw [same]
      exact ih led

theorem files_of_makeDirectory (made : tree.makeDirectory start front last = .ok changed) :
    changed.files = tree.files := by
  unfold makeDirectory at made
  grind

/-- Making directories changes no file, whether all of them can be made or not. -/
theorem files_makeDirectories (tree : FileTree) (start : Location) (reversed : List Text) :
    (tree.makeDirectories start reversed).1.files = tree.files := by
  induction reversed with
  | nil => rfl
  | cons last front ih =>
    have made (tree : FileTree) :
        (tree.after (tree.makeDirectory start front.reverse last)).1.files = tree.files := by
      cases result : tree.makeDirectory start front.reverse last with
      | error => rfl
      | ok changed => exact files_of_makeDirectory result
    rw [makeDirectories]
    split
    case h_1 =>
      split
      case h_1 between found => rw [made, ← ih, found]
      case h_2 => exact ih
    case h_2 => exact made tree

theorem lookup_insert (location other : Location) (bytes : ByteArray)
    (files : List (Location × ByteArray)) :
    (insert location bytes files).lookup other =
      if other = location then some bytes else files.lookup other := by
  induction files with
  | nil =>
    rw [insert, List.lookup_cons]
    grind
  | cons file files ih =>
    obtain ⟨place, old⟩ := file
    rw [insert]
    split
    case isTrue same =>
      subst same
      simp only [List.lookup_cons]
      grind
    case isFalse different =>
      simp only [List.lookup_cons, ih]
      grind

/-- Every file stays one. -/
theorem exists_mem_insert {files : List (Location × ByteArray)} {old : ByteArray}
    (found : (next, old) ∈ files) (location : Location) (bytes : ByteArray) :
    ∃ content, (next, content) ∈ insert location bytes files := by
  induction files with
  | nil => cases found
  | cons file files ih =>
    obtain ⟨other, content⟩ := file
    rw [List.mem_cons] at found
    rw [insert]
    grind

/-- Every directory stays one. -/
theorem isDirectory_insert (known : tree.isDirectory next) (location : Location)
    (bytes : ByteArray) :
    isDirectory { tree with files := insert location bytes tree.files } next := by
  rw [isDirectory, Bool.or_eq_true, List.any_eq_true] at known ⊢
  obtain listed | ⟨⟨file, old⟩, found, leads⟩ := known
  · exact .inl listed
  · obtain ⟨content, kept⟩ := exists_mem_insert found location bytes
    exact .inr ⟨(file, content), kept, leads⟩

theorem store_eq_ok_iff : tree.store start front last bytes = .ok changed ↔
    ∃ location, tree.walk start front = .ok location ∧ ¬ Path.isLongName last ∧ last ≠ Path.up ∧
      ¬ tree.isDirectory (location ++ [last]) ∧
      changed = { tree with files := insert (location ++ [last]) bytes tree.files } := by
  unfold store
  grind

/-- What is stored is found where it was stored. -/
theorem resolve_of_store (short : ¬ path.isLong) (split : path.parts.reverse = last :: front)
    (stored : tree.store (path.start here) front.reverse last bytes = .ok changed) :
    ∃ location, changed.resolve here path = .ok location ∧
      ∀ other, changed.get? other = if other = location then some bytes else tree.get? other := by
  obtain ⟨directory, led, shortName, down, -, rfl⟩ := store_eq_ok_iff.mp stored
  refine ⟨directory ++ [last], ?_, fun other => lookup_insert _ _ _ _⟩
  have still := walk_mono
    (fun _ known => isDirectory_insert known (directory ++ [last]) bytes) led
  simp only [resolve, if_neg short, split]
  rw [still]
  exact lookUp_eq_ok_iff.mpr (.inr ⟨down, shortName, rfl, .inr (by simp [get?, lookup_insert])⟩)

/-! ## Writing -/

/-- Either no file is changed, or one is stored once the directories on the way to it are there. -/
theorem write_cases (tree : FileTree) (here : Location) (path : Path) (bytes : ByteArray) :
    (tree.write here path bytes).2 ≠ none ∧ (tree.write here path bytes).1.files = tree.files ∨
      ∃ (made : FileTree) (last : Text) (front : List Text),
        (tree.write here path bytes).2 = none ∧ made.files = tree.files ∧ ¬ path.isLong ∧
        path.parts.reverse = last :: front ∧
        made.store (path.start here) front.reverse last bytes =
          .ok (tree.write here path bytes).1 := by
  generalize result : tree.write here path bytes = written
  obtain ⟨changed, fault?⟩ := written
  unfold write at result
  split at result
  case h_1 => grind
  case h_2 last front parts =>
    have kept := files_makeDirectories tree (path.start here) front
    split at result
    case isTrue => grind
    case isFalse =>
      split at result
      case h_1 made found =>
        rw [found] at kept
        unfold after at result
        grind
      case h_2 failed =>
        rw [result] at kept failed
        cases fault? with
        | none => exact absurd rfl (failed changed)
        | some cause => exact .inl ⟨nofun, kept⟩

variable (tree here path bytes)

/-- A file that cannot be written leaves all files as they were. -/
theorem files_write (failed : (tree.write here path bytes).2 ≠ none) :
    (tree.write here path bytes).1.files = tree.files := by
  obtain ⟨-, kept⟩ | ⟨-, -, -, succeeds, -⟩ := write_cases tree here path bytes
  · exact kept
  · exact absurd succeeds failed

/-- A file that is written is where its path leads to, and all others are as they were. -/
theorem get?_write (succeeds : (tree.write here path bytes).2 = none) :
    ∃ location, (tree.write here path bytes).1.resolve here path = .ok location ∧
      ∀ other, (tree.write here path bytes).1.get? other =
        if other = location then some bytes else tree.get? other := by
  obtain ⟨failed, -⟩ | ⟨made, last, front, -, kept, short, parts, stored⟩ :=
    write_cases tree here path bytes
  · exact absurd succeeds failed
  · have same : made.get? = tree.get? := by
      funext other
      exact congrArg (List.lookup other) kept
    rw [← same]
    exact resolve_of_store short parts stored

/-- A file that is written is read back. -/
theorem read_write (succeeds : (tree.write here path bytes).2 = none) :
    (tree.write here path bytes).1.read here path = .ok bytes := by
  obtain ⟨location, leads, content⟩ := get?_write tree here path bytes succeeds
  simp only [read, leads]
  rw [content, if_pos rfl]

/-- Only where a path leads to can writing it change a file. -/
theorem resolve_write (succeeds : (tree.write here path bytes).2 = none)
    (differs : (tree.write here path bytes).1.get? location ≠ tree.get? location) :
    (tree.write here path bytes).1.resolve here path = .ok location := by
  obtain ⟨place, leads, content⟩ := get?_write tree here path bytes succeeds
  by_cases same : location = place
  · exact same ▸ leads
  · exact absurd (by rw [content, if_neg same]) differs

end Mockup.FileTree
