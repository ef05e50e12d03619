import Mockup.Proofs.Command.Response
import Mockup.Proofs.Text

/-!
# Arguments for every invocation

Options that are spelled out, each with its value behind an equals sign, are read as they are, and
so is everything behind a double hyphen. A path is what its own text stands for. So there are
arguments that ask for any invocation whose paths can be given at all.
-/

namespace Mockup

namespace Path

/-- Whether a path may be what a text stands for. -/
structure Canonical (path : Path) : Prop where
  root : path.root = [] ∨ path.root = "/".toList ∨ path.root = "//".toList
  parts (part : Text) (member : part ∈ path.parts) : part ≠ [] ∧ part ≠ ['.'] ∧ '/' ∉ part

theorem canonical_ofText (text : Text) : (ofText text).Canonical where
  root := by
    rw [ofText]
    dsimp only
    split
    · exact .inl rfl
    · split
      · exact .inr (.inr rfl)
      · exact .inr (.inl rfl)
  parts part member := by
    obtain ⟨piece, named⟩ := List.mem_filter.1 member
    have named := of_decide_eq_true named
    exact ⟨named.1, named.2, Text.not_mem_of_mem_splitOn piece⟩

variable {path : Path}

theorem Canonical.filter_splitOn (canonical : path.Canonical) :
    (Text.splitOn '/' (Text.joined ['/'] path.parts)).filter
      (fun part => part ≠ [] ∧ part ≠ ['.']) = path.parts := by
  cases named : path.parts with
  | nil => rfl
  | cons first more =>
      rw [Text.splitOn_joined (List.cons_ne_nil _ _)
        fun part member => (canonical.parts part (named ▸ member)).2.2]
      refine List.filter_eq_self.2 fun part member => ?_
      have kept := canonical.parts part (named ▸ member)
      exact decide_eq_true ⟨kept.1, kept.2.1⟩

theorem Canonical.takeWhile_joined (canonical : path.Canonical) :
    (Text.joined ['/'] path.parts).takeWhile (· = '/') = [] := by
  cases named : path.parts with
  | nil => rfl
  | cons first more =>
      obtain ⟨nonempty, -, free⟩ := canonical.parts first (named ▸ List.mem_cons_self)
      obtain ⟨character, rest, rfl⟩ := List.exists_cons_of_ne_nil nonempty
      have differs : character ≠ '/' := fun same => free (same ▸ List.mem_cons_self)
      cases more <;> simp [Text.joined, differs]

/-- A path is what its own text stands for. -/
theorem ofText_text (canonical : path.Canonical) : ofText path.text = path := by
  have names := canonical.filter_splitOn
  have relative := canonical.takeWhile_joined
  obtain ⟨root, parts⟩ := path
  obtain rfl | rfl | rfl := canonical.root
  · cases parts with
    | nil => rfl
    | cons first more => simpa [ofText, text, relative] using names
  · simpa [ofText, text, Text.splitOn, relative] using names
  · simpa [ofText, text, Text.splitOn, relative] using names

/-- The text of a path has no characters but those that it was read from, slashes and dots. -/
theorem text_ofText_subset (argument : Text) :
    (ofText argument).text ⊆ '.' :: '/' :: argument := by
  have root : (ofText argument).root ⊆ '.' :: '/' :: argument := by
    obtain none | one | two := (canonical_ofText argument).root
    · simp [none]
    · simp [one]
    · simp [two]
  have parts : ∀ part ∈ (ofText argument).parts, part ⊆ '.' :: '/' :: argument := by
    intro part member
    have within := Text.subset_of_mem_splitOn (List.mem_of_mem_filter member)
    exact List.subset_cons_of_subset _ (List.subset_cons_of_subset _ within)
  rw [text]
  split
  · simp
  · refine List.append_subset.2 ⟨root, ?_⟩
    cases named : (ofText argument).parts with
    | nil => exact List.nil_subset _
    | cons first more =>
        rw [named] at parts
        refine Text.joined_induction (List.cons_ne_nil _ _) parts fun front rest left right => ?_
        simp [left, right]

end Path

/-- A path that an argument stands for can be given by its own text as well. -/
theorem Arguments.path_text {argument : Text} {path : Path}
    (read : Arguments.path argument = .ok path) : Arguments.path path.text = .ok path := by
  rw [Arguments.path] at read
  split at read
  · cases read
  case isFalse clean =>
    obtain rfl : Path.ofText argument = path := Except.ok.inj read
    have same := Path.ofText_text (Path.canonical_ofText argument)
    have written : ¬ (Path.ofText argument).text.any (·.toNat = 0) = true := by
      intro found
      obtain ⟨character, member, zero⟩ := List.any_eq_true.1 found
      obtain rfl | later := List.mem_cons.1 (Path.text_ofText_subset argument member)
      · cases of_decide_eq_true zero
      · obtain rfl | later := List.mem_cons.1 later
        · cases of_decide_eq_true zero
        · exact clean (List.any_eq_true.2 ⟨character, later, zero⟩)
    rw [Arguments.path, if_neg written, same]

/-- What the reader of options relies on: no two options have the same name, and a name is more
than two hyphens and holds no equals sign. -/
structure SwitchForm.AllReadable (forms : List SwitchForm) : Prop where
  distinct : (forms.map SwitchForm.long).Nodup
  free (form : SwitchForm) (listed : form ∈ forms) : '=' ∉ form.long
  long (form : SwitchForm) (listed : form ∈ forms) :
    ∃ first name, form.long = '-' :: '-' :: first :: name

/-- All options there are. -/
def SwitchForm.all : List SwitchForm :=
  [.verbose, .help, .installCompletion, .showCompletion, .target, .out, .strict,
    .preserveWhitespace, .check]

theorem SwitchForm.AllReadable.of_sublist {forms : List SwitchForm}
    (sublist : forms.Sublist all) : AllReadable forms where
  distinct := (sublist.map SwitchForm.long).nodup (by decide)
  free form listed := by
    have free : ∀ form ∈ all, '=' ∉ form.long := by decide
    exact free form (sublist.subset listed)
  long form listed := by
    have long : ∀ form ∈ all, ∃ first name, form.long = '-' :: '-' :: first :: name := by
      simp [all, verbose, help, installCompletion, showCompletion, target, out, strict,
        preserveWhitespace, check]
    exact long form (sublist.subset listed)

/-- An option with its value, if it takes one. -/
def SwitchForm.spelled (form : SwitchForm) (value : Text) : Text :=
  if form.takesValue then form.long ++ '=' :: value else form.long

/-- Options with their values. -/
abbrev Settings := List (SwitchForm × Text)

namespace Settings

/-- Whether all options are listed ones, with no value where they take none. -/
def Within (settings : Settings) (forms : List SwitchForm) : Prop :=
  ∀ setting ∈ settings, setting.1 ∈ forms ∧ (setting.1.takesValue = false → setting.2 = [])

theorem Within.mono {settings : Settings} {forms others : List SwitchForm}
    (within : settings.Within forms) (subset : forms ⊆ others) : settings.Within others :=
  fun setting listed => ⟨subset (within setting listed).1, (within setting listed).2⟩

/-- The arguments that give options. -/
def spelled (settings : Settings) : List Text :=
  settings.map fun (form, value) => form.spelled value

/-- What is read from them. -/
def options (settings : Settings) : List (Switch × Text) :=
  settings.map fun (form, value) => (form.switch, value)

end Settings

namespace Arguments

variable {forms : List SwitchForm} {form : SwitchForm} {value : Text}

theorem find?_long (readable : SwitchForm.AllReadable forms) (listed : form ∈ forms) :
    (forms.find? fun other => other.long = form.long) = some form := by
  cases found : forms.find? fun other => other.long = form.long with
  | none => exact absurd (decide_eq_true rfl) (List.find?_eq_none.1 found form listed)
  | some other =>
      have same : other.long = form.long := by simpa using List.find?_some found
      have member := List.mem_of_find?_eq_some found
      rw [List.inj_on_of_nodup_map readable.distinct member listed same]

theorem readOption_spelled (readable : SwitchForm.AllReadable forms) (listed : form ∈ forms)
    (fits : form.takesValue = false → value = []) :
    readOption forms (form.spelled value) = .ok ([(form.switch, value)], none) := by
  have found := find?_long readable listed
  have free := readable.free form listed
  cases takes : form.takesValue with
  | true =>
      have cut : Text.spanTo? '=' (form.long ++ '=' :: value) = some (form.long, value) :=
        Text.spanTo?_eq_some_iff.2 ⟨rfl, free⟩
      simp [readOption, SwitchForm.spelled, takes, cut, found]
  | false =>
      have uncut : Text.spanTo? '=' form.long = none := by
        rw [Option.eq_none_iff_forall_ne_some]
        rintro ⟨run, rest⟩ cut
        exact free ((Text.spanTo?_eq_some_iff.1 cut).1 ▸ by simp)
      simp [readOption, SwitchForm.spelled, takes, uncut, found, fits takes]

theorem spelled_long (readable : SwitchForm.AllReadable forms) (listed : form ∈ forms)
    (value : Text) :
    ∃ first rest, form.spelled value = '-' :: '-' :: first :: rest := by
  obtain ⟨first, name, long⟩ := readable.long form listed
  rw [SwitchForm.spelled, long]
  split
  · exact ⟨first, name ++ '=' :: value, rfl⟩
  · exact ⟨first, name, rfl⟩

/-- Options that are spelled out are read as they are. -/
theorem read_spelled (readable : SwitchForm.AllReadable forms) {settings : Settings}
    (within : settings.Within forms) (mixed : Bool) (rest : List Text) :
    read forms mixed (settings.spelled ++ rest) =
      (read forms mixed rest).map (Given.addOptions settings.options) := by
  induction settings with
  | nil =>
      rw [Settings.spelled, List.map_nil, List.nil_append]
      cases read forms mixed rest <;> rfl
  | cons setting settings ih =>
      obtain ⟨form, value⟩ := setting
      obtain ⟨⟨listed, fits⟩, within⟩ := List.forall_mem_cons.1 within
      obtain ⟨first, name, shape⟩ := spelled_long readable listed value
      have more : form.spelled value ≠ "--".toList := by rw [shape]; simp
      have option : isOption (form.spelled value) = true := by rw [shape]; rfl
      rw [Settings.spelled, List.map_cons, List.cons_append, read, if_neg more, if_pos option,
        readOption_spelled readable listed fits]
      exact (congrArg (Except.map _) (ih within)).trans (by cases read forms mixed rest <;> rfl)

/-- Everything behind a double hyphen is taken as it is. -/
theorem read_spelled_hyphens (readable : SwitchForm.AllReadable forms) {settings : Settings}
    (within : settings.Within forms) (mixed : Bool) (others : List Text) :
    read forms mixed (settings.spelled ++ "--".toList :: others) =
      .ok ⟨settings.options, others⟩ := by
  rw [read_spelled readable within, read, if_pos rfl]
  simp [Except.map, Given.addOptions]

/-- No value of an option is refused if none for a path or a target is. -/
theorem validate_eq_ok {given : Given} {outPath : Option Path} {asked : Target}
    (outRead : out given = .ok outPath) (targetRead : target given = .ok asked) :
    validate given = .ok () := by
  rw [validate]
  induction given.options with
  | nil => rfl
  | cons option options ih =>
      obtain ⟨switch, value⟩ := option
      rw [List.forM, ih]
      cases switch <;> simp only [outRead, targetRead] <;> rfl

end Arguments

namespace Command

/-- The name of a command. -/
def name : Command → Text
  | .parse .. => "parse".toList
  | .render .. => "render".toList
  | .tree _ => "tree".toList
  | .check .. => "check".toList
  | .listChecks => "list-checks".toList

/-- The options of a command that may write a file. -/
def outputSettings (target : Option Target) (out : Option Path)
    (strict preserveWhitespace : Bool) : Settings :=
  (target.map fun target => (SwitchForm.target, target.name)).toList ++
    (out.map fun path => (SwitchForm.out, path.text)).toList ++
    (if strict then [(.strict, [])] else []) ++
    if preserveWhitespace then [(.preserveWhitespace, [])] else []

/-- The options that a command has. -/
def settings : Command → Settings
  | .parse _ out strict preserveWhitespace => outputSettings none out strict preserveWhitespace
  | .render _ target out strict preserveWhitespace =>
    outputSettings target out strict preserveWhitespace
  | .check _ checks => checks.map fun check => (.check, check)
  | .tree _ | .listChecks => []

/-- What a command is given. -/
def given (command : Command) : Given :=
  ⟨command.settings.options, (command.source?.map Path.text).toList⟩

/-- Whether there are arguments for all paths of a command. -/
def Spellable (command : Command) : Prop :=
  ∀ path, command.source? = some path ∨ command.out? = some path →
    ∃ argument, Arguments.path argument = .ok path

theorem out_given (command : Command) (spellable : command.Spellable) :
    Arguments.out command.given = .ok command.out? := by
  have values : command.given.values .out = (command.out?.map Path.text).toList := by
    cases command with
    | parse _ out strict preserveWhitespace =>
        cases out <;> cases strict <;> cases preserveWhitespace <;> rfl
    | render _ target out strict preserveWhitespace =>
        cases out <;> cases strict <;> cases preserveWhitespace <;> rfl
    | check _ checks =>
        simp [given, settings, Settings.options, Given.values, out?, SwitchForm.check]
    | tree | listChecks => rfl
  rw [Arguments.out, Given.value?, values]
  cases named : command.out? with
  | none => rfl
  | some out =>
    obtain ⟨argument, read⟩ := spellable out (.inr named)
    simp [Arguments.path_text read]

theorem target_given (command : Command) :
    Arguments.target command.given = .ok (match command with
      | .render _ target .. => target
      | _ => .html) := by
  cases command with
  | parse _ out strict preserveWhitespace =>
      cases out <;> cases strict <;> cases preserveWhitespace <;> rfl
  | render _ target out strict preserveWhitespace =>
      cases target <;> cases out <;> cases strict <;> cases preserveWhitespace <;> rfl
  | check _ checks =>
      simp [Arguments.target, given, settings, Settings.options, Given.value?, Given.values,
        SwitchForm.check]
  | tree | listChecks => rfl

theorem source_given {command : Command} (spellable : command.Spellable) (source : Path)
    (reads : command.source? = some source) : Arguments.source command.given = .ok source := by
  obtain ⟨argument, read⟩ := spellable source (.inl reads)
  rw [given, reads]
  exact Arguments.path_text read

theorem has_output (target : Option Target) (out : Option Path) (strict preserveWhitespace : Bool)
    (others : List Text) :
    let given : Given := ⟨(outputSettings target out strict preserveWhitespace).options, others⟩
    given.has .strict = strict ∧ given.has .preserveWhitespace = preserveWhitespace ∧
      given.has .help = false := by
  cases target <;> cases out <;> cases strict <;> cases preserveWhitespace <;>
    exact ⟨rfl, rfl, rfl⟩

/-- A command is read back from what it is given. -/
theorem command_given (command : Command) (spellable : command.Spellable) :
    Arguments.command command.name command.given = .ok command := by
  have outRead := command.out_given spellable
  have targetRead := command.target_given
  have valid := Arguments.validate_eq_ok outRead targetRead
  unfold name
  rw [Arguments.command, valid]
  cases command with
  | parse source out strict preserveWhitespace =>
      have sourceRead := source_given spellable source rfl
      obtain ⟨isStrict, preserves, -⟩ := has_output none out strict preserveWhitespace [source.text]
      rw [if_pos rfl, sourceRead, outRead]
      exact congrArg Except.ok (congrArg₂ (Command.parse source out) isStrict preserves)
  | render source target out strict preserveWhitespace =>
      have sourceRead := source_given spellable source rfl
      obtain ⟨isStrict, preserves, -⟩ :=
        has_output target out strict preserveWhitespace [source.text]
      dsimp only
      rw [if_neg (by decide), if_pos rfl, sourceRead, targetRead, outRead]
      exact congrArg Except.ok (congrArg₂ (Command.render source target out) isStrict preserves)
  | tree source =>
      have sourceRead := source_given spellable source rfl
      dsimp only
      rw [if_neg (by decide), if_neg (by decide), if_pos rfl, sourceRead]
      rfl
  | check source checks =>
      have sourceRead := source_given spellable source rfl
      have values : (given (.check source checks)).values .check = checks := by
        simp [given, settings, Settings.options, Given.values, SwitchForm.check]
      dsimp only
      rw [if_neg (by decide), if_neg (by decide), if_neg (by decide), if_pos rfl, sourceRead,
        values]
      rfl
  | listChecks => rfl

/-- The options that a command can be given. -/
def forms : Command → List SwitchForm
  | .parse .. => [.help, .out, .strict, .preserveWhitespace]
  | .render .. => [.help, .target, .out, .strict, .preserveWhitespace]
  | .check .. => [.help, .check]
  | .tree _ | .listChecks => [.help]

theorem lookup_name (command : Command) :
    (Arguments.commandForms.lookup command.name).map (SwitchForm.help :: ·) =
      some command.forms := by
  cases command <;> rfl

theorem forms_sublist (command : Command) : command.forms.Sublist SwitchForm.all := by
  cases command <;> exact of_decide_eq_true rfl

theorem within_output (target : Option Target) (out : Option Path)
    (strict preserveWhitespace : Bool) :
    (outputSettings target out strict preserveWhitespace).Within
      ((target.map fun _ => SwitchForm.target).toList ++ [.out, .strict, .preserveWhitespace]) := by
  cases target <;> cases out <;> cases strict <;> cases preserveWhitespace <;>
    simp [outputSettings, Settings.Within, SwitchForm.target, SwitchForm.out, SwitchForm.strict,
      SwitchForm.preserveWhitespace]

theorem within_forms (command : Command) : command.settings.Within command.forms := by
  cases command with
  | parse _ out strict preserveWhitespace =>
      exact (within_output none out strict preserveWhitespace).mono (List.subset_cons_self _ _)
  | render _ target out strict preserveWhitespace =>
      exact (within_output target out strict preserveWhitespace).mono (List.subset_cons_self _ _)
  | check _ checks =>
      intro setting listed
      obtain ⟨check, -, rfl⟩ := List.mem_map.1 listed
      exact ⟨List.mem_cons_of_mem _ (List.mem_singleton_self _), nofun⟩
  | tree | listChecks => exact fun _ listed => nomatch listed

theorem not_has_help (command : Command) : command.given.has .help = false := by
  cases command with
  | parse source out strict preserveWhitespace =>
      exact (has_output none out strict preserveWhitespace [source.text]).2.2
  | render source target out strict preserveWhitespace =>
      exact (has_output target out strict preserveWhitespace [source.text]).2.2
  | check _ checks => simp [given, settings, Settings.options, Given.has, SwitchForm.check]
  | tree | listChecks => rfl

end Command

/-- Arguments that ask for an invocation. -/
def Invocation.arguments (invocation : Invocation) : List Text :=
  Settings.spelled (if invocation.verbose then [(.verbose, [])] else []) ++
    invocation.command.name :: (invocation.command.settings.spelled ++
      "--".toList :: (invocation.command.source?.map Path.text).toList)

namespace Arguments

theorem readCommand_arguments (verbose : Bool) (command : Command) (spellable : command.Spellable) :
    readCommand verbose command.name (command.settings.spelled ++
      "--".toList :: (command.source?.map Path.text).toList) = .ok (.run ⟨verbose, command⟩) := by
  obtain ⟨forms, found, same⟩ := Option.map_eq_some_iff.1 command.lookup_name
  have readable := SwitchForm.AllReadable.of_sublist command.forms_sublist
  have readGiven := read_spelled_hyphens readable command.within_forms true
    (command.source?.map Path.text).toList
  rw [← same] at readGiven
  have noHelp := command.not_has_help
  have readBack := command.command_given spellable
  rw [Command.given] at noHelp readBack
  rw [readCommand, found]
  dsimp only
  rw [readGiven]
  show (if _ = true then _ else _) = _
  rw [noHelp, if_neg Bool.false_ne_true, readBack]
  rfl

/-- The name of a command ends the options in front of it. -/
theorem read_name (forms : List SwitchForm) (command : Command) (arguments : List Text) :
    read forms false (command.name :: arguments) = .ok ⟨[], command.name :: arguments⟩ := by
  have word : command.name ≠ "--".toList ∧ isOption command.name = false := by
    cases command <;> exact of_decide_eq_true rfl
  rw [read, if_neg word.1, word.2]
  rfl

theorem readAll_arguments (invocation : Invocation) (spellable : invocation.command.Spellable) :
    readAll invocation.arguments = .ok (.run invocation) := by
  obtain ⟨verbose, command⟩ := invocation
  have readable : SwitchForm.AllReadable [.verbose, .help, .installCompletion, .showCompletion] :=
    .of_sublist (by decide)
  have within : Settings.Within (if verbose then [(SwitchForm.verbose, [])] else [])
      [.verbose, .help, .installCompletion, .showCompletion] := by
    cases verbose <;> simp [Settings.Within]
  have run := readCommand_arguments verbose command spellable
  rw [readAll, Invocation.arguments, read_spelled readable within, read_name]
  cases verbose <;> exact run

/-- For every invocation there are arguments that ask for it. -/
theorem request_arguments (invocation : Invocation) (spellable : invocation.command.Spellable) :
    request invocation.arguments = .run invocation := by
  rw [request, readAll_arguments invocation spellable]

end Arguments

end Mockup
