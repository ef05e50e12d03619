import Mockup.Command.Outcome
import Mockup.Proofs.Command.FileTree
import Mockup.Proofs.Command.Response

/-!
# When a program changes a file

A program that ends with another exit code than zero has changed no file. One that ends with zero
has changed one file at most: the one that it was told to write, and there is then in it what the
command makes of its source. This is so wherever the console takes what is shown and the disk takes
what is stored; a program that has written its file and cannot say so fails with the file changed.
Nor are the files of a shell among those that are looked at here: the library for command lines
changes them when it sets up completion.
-/

namespace Mockup

variable {host : Host} {here : Location} {code : Nat} {failure : Option Failure} {files : FileTree}

/-- A host that shows and stores everything, with a library for data models that does what the
models say for all documents that can be read. -/
structure Host.Able (host : Host) : Prop where
  shows (line : Text) : host.shows line = true
  cut? (bytes : ByteArray) : host.cut? bytes = none
  models : host.models.Lawful Reading.nestingBound
  /-- The shell, for which completion is set up, has its files elsewhere. -/
  files_install (files : FileTree) : (host.install files).files = files.files

theorem Host.standard_able : standard.Able where
  files_install _ := rfl
  shows _ := rfl
  cut? _ := rfl
  models := ModelLibrary.standard_lawful.mono (by decide)

theorem Host.Able.all_shows (able : host.Able) (lines : List Text) :
    lines.all host.shows = true :=
  List.all_eq_true.2 fun line _ => able.shows line

namespace Response

/-- Steps that write nothing leave all files as they are. -/
theorem files_takeSteps {steps : List Step} (spares : ∀ step ∈ steps, ¬ step.Writes) :
    (takeSteps host here code failure files steps).files = files := by
  induction steps with
  | nil => rfl
  | cons step steps ih =>
    rw [List.forall_mem_cons] at spares
    cases step with
    | log => exact ih spares.2
    | lines shown =>
      rw [takeSteps]
      split
      · exact ih spares.2
      · rfl
    | message text =>
      rw [takeSteps]
      split
      · rfl
      · split
        · exact ih spares.2
        · rfl
    | write | install => exact absurd trivial spares.1

/-- No steps make up for an exit code that is not zero. -/
theorem exitCode_takeSteps_ne_zero (fails : code ≠ 0) (steps : List Step) :
    (takeSteps host here code failure files steps).exitCode ≠ 0 := by
  induction steps generalizing files with
  | nil => exact fails
  | cons step steps ih =>
    cases step with
    | log | install => exact ih
    | lines shown =>
      rw [takeSteps]
      split
      · exact ih
      · exact Nat.one_ne_zero
    | message text =>
      rw [takeSteps]
      split
      · exact Nat.one_ne_zero
      · split
        · exact ih
        · exact Nat.one_ne_zero
    | write path bytes =>
      rw [takeSteps]
      split
      · exact Nat.one_ne_zero
      · split
        · exact ih
        · exact Nat.one_ne_zero

/-- Steps that cannot fail are all taken, and change nothing about what comes of those behind. -/
theorem takeSteps_append (able : host.Able) {before : List Step}
    (safe : ∀ step ∈ before, step.IsSafe) (steps : List Step) :
    (takeSteps host here code failure files (before ++ steps)).exitCode =
        (takeSteps host here code failure files steps).exitCode ∧
      (takeSteps host here code failure files (before ++ steps)).files =
        (takeSteps host here code failure files steps).files := by
  induction before with
  | nil => exact ⟨rfl, rfl⟩
  | cons step before ih =>
    rw [List.forall_mem_cons] at safe
    cases step with
    | log => exact ih safe.2
    | lines shown =>
      rw [List.cons_append, takeSteps, if_pos (able.all_shows shown)]
      exact ih safe.2
    | message text =>
      rw [List.cons_append, takeSteps, show (Markup.read text).fault? = none from safe.1]
      simp only [able.all_shows, if_true]
      exact ih safe.2
    | write | install => exact absurd safe.1 id

theorem takeSteps_of_safe (able : host.Able) {steps : List Step}
    (safe : ∀ step ∈ steps, step.IsSafe) :
    (takeSteps host here code failure files steps).exitCode = code ∧
      (takeSteps host here code failure files steps).files = files := by
  rw [← List.append_nil steps]
  exact takeSteps_append able safe []

theorem Spares.files_carryOut {response : Response} (spares : response.Spares) :
    (response.carryOut host here files).files = files :=
  files_takeSteps spares

theorem exitCode_of_carryOut {response : Response}
    (succeeds : (response.carryOut host here files).exitCode = 0) : response.exitCode = 0 :=
  Decidable.byContradiction fun fails => exitCode_takeSteps_ne_zero fails _ succeeds

/-- A response that delivers a file succeeds exactly if that can be written, and does to the files
what writing it does. -/
theorem Delivers.carryOut_eq (able : host.Able) {response : Response} {out : Path}
    {written : Text} (delivers : response.Delivers out written) (here : Location)
    (files : FileTree) :
    ((response.carryOut host here files).exitCode = 0 ↔
        (files.write here out (Text.toBytes written)).2 = none) ∧
      (response.carryOut host here files).files =
        (files.write here out (Text.toBytes written)).1 := by
  obtain ⟨before, after, same, safeBefore, safeAfter⟩ := delivers.steps_eq
  rw [carryOut, delivers.exitCode_eq, same, (takeSteps_append able safeBefore _).1,
    (takeSteps_append able safeBefore _).2, takeSteps, able.cut?,
    Option.getD_none]
  split
  case h_1 changed cause failed =>
    rw [failed]
    exact ⟨⟨nofun, nofun⟩, rfl⟩
  case h_2 changed wrote =>
    rw [wrote, (takeSteps_of_safe able safeAfter).1,
      (takeSteps_of_safe able safeAfter).2]
    exact ⟨⟨fun _ => rfl, fun _ => rfl⟩, rfl⟩

end Response

/-! ## Running programs -/

variable {registry : Registry} {arguments : List Text} {invocation : Invocation} {out : Path}
variable {written : Text}

/-- A program that is to write a file succeeds exactly if that can be written, and changes nothing
else. -/
theorem runProgramIn_of_writes (able : host.Able)
    (understood : host.request arguments = .run invocation)
    (writes : invocation.command.Writes registry (files.read here) out written) :
    ((runProgramIn host registry here files arguments).exitCode = 0 ↔
        (files.write here out (Text.toBytes written)).2 = none) ∧
      (runProgramIn host registry here files arguments).files =
        (files.write here out (Text.toBytes written)).1 := by
  rw [runProgramIn, understood]
  exact (invocation.delivers_respond (writes.delivers able.models)).carryOut_eq able here files

/-- Any other program changes no file, and does not succeed if it is told to write one. -/
theorem runProgramIn_cases (able : host.Able) (registry : Registry) (here : Location)
    (files : FileTree) (arguments : List Text) :
    (runProgramIn host registry here files arguments).files.files = files.files ∧
        ((runProgramIn host registry here files arguments).exitCode = 0 → ∀ invocation,
          host.request arguments = .run invocation → invocation.command.out? = none) ∨
      ∃ invocation out written, host.request arguments = .run invocation ∧
        invocation.command.Writes registry (files.read here) out written := by
  by_cases install : host.request arguments = .install
  · refine .inl ⟨?_, fun _ invocation run => by cases install.symm.trans run⟩
    rw [runProgramIn, install]
    exact able.files_install files
  · obtain ⟨spares, noOut⟩ | writes :=
      Request.respond_cases host.models registry (files.read here) install
    · exact .inl ⟨congrArg FileTree.files spares.files_carryOut, fun succeeds =>
        noOut (Response.exitCode_of_carryOut succeeds)⟩
    · exact .inr writes

/-- A program that fails changes no file. -/
theorem files_of_exitCode_ne_zero (able : host.Able)
    (fails : (runProgramIn host registry here files arguments).exitCode ≠ 0) :
    (runProgramIn host registry here files arguments).files.files = files.files := by
  obtain ⟨kept, -⟩ | ⟨invocation, out, written, understood, writes⟩ :=
    runProgramIn_cases able registry here files arguments
  · exact kept
  · obtain ⟨succeeds, same⟩ := runProgramIn_of_writes able understood writes
    rw [same]
    exact FileTree.files_write _ _ _ _ (mt succeeds.mpr fails)

/-- Where nothing can be shown, a program that has written its file fails. -/
example :
    let mute : Host := { Host.standard with shows := fun _ => false }
    let outcome := runProgramIn mute .builtin [] ⟨[(["d".toList], Text.toBytes "# A".toList)], []⟩
      ["parse".toList, "d".toList, "-o".toList, "e".toList]
    outcome.exitCode = 1 ∧ (outcome.files.get? ["e".toList]).isSome := by
  decide +kernel

end Mockup
