import LanguageWorker.CommandLine
import LanguageWorker.Proofs.Results

namespace LanguageWorker.CommandLine

/-! Which invocations can be asked for: those without empty paths. The arguments for one give
each option in one argument together with its value, and what is no option behind two dashes,
so that it does not matter how a value begins. -/

/-- An option in one argument with its value. -/
def joined (name value : String) : String := "--" ++ name ++ "=" ++ value

/-- The arguments that ask for an action. -/
def Action.arguments : Action → List String
  | .defaultLib target => "default-lib" :: (target.map (joined "target")).toList
  | .files documents => "files" :: "--" :: documents
  | .text name documents => "text" :: (documents.map (joined "open") ++ ["--", name])

/-- The arguments that ask for an invocation. -/
def Invocation.arguments (invocation : Invocation) : List String :=
  (invocation.config.map (joined "config")).toList ++
    ((invocation.libDir.map (joined "lib-dir")).toList ++ invocation.action.arguments)

/-- No path of the invocation is empty. -/
structure Invocation.Proper (invocation : Invocation) : Prop where
  config : invocation.config ≠ some ""
  libDir : invocation.libDir ≠ some ""
  documents : "" ∉ invocation.action.documents

/-! ## Options -/

variable {name value : String} {option : OptionName}

theorem toList_joined (name value : String) :
    (joined name value).toList = '-' :: '-' :: (name.toList ++ '=' :: value.toList) := by
  simp [joined]

theorem joined_ne {argument : String} (plain : '=' ∉ argument.toList) :
    joined name value ≠ argument := by
  intro same
  apply plain
  rw [← same, toList_joined]
  simp

theorem looksLikeOption_joined (name value : String) :
    looksLikeOption (joined name value).toList := by
  rw [toList_joined]
  rfl

theorem not_startsWith_joined {letter : Char} (other : letter ≠ '-') :
    (joined name value).startsWith (String.ofList ['-', letter]) = false := by
  rw [← Bool.not_eq_true, String.startsWith_string_iff, toList_joined, String.toList_ofList]
  simp [other]

theorem flag?_joined (command : Option Command) (name value : String) :
    flag? command (joined name value) = none := by
  have help : joined name value ≠ "--help" := joined_ne (by decide)
  have version : joined name value ≠ "--version" := joined_ne (by decide)
  have shortHelp : (joined name value).startsWith "-h" = false :=
    not_startsWith_joined (by decide)
  have shortVersion : (joined name value).startsWith "-V" = false :=
    not_startsWith_joined (by decide)
  simp [flag?, help, version, shortHelp, shortVersion]

/-- The value begins behind the first equals sign, whatever is in it. -/
theorem longOption?_joined (plain : '=' ∉ name.toList) (value : String) :
    longOption? (joined name value).toList = some (name, some value) := by
  have apart : ∀ character ∈ name.toList, decide (character ≠ '=') = true := by
    intro character listed
    exact decide_eq_true fun same => plain (same ▸ listed)
  rw [toList_joined]
  simp only [longOption?]
  rw [List.takeWhile_append_of_pos apart, List.dropWhile_append_of_pos apart]
  simp

theorem eq_not_mem_of_option? {command : Option Command}
    (known : option? command name = some option) : '=' ∉ name.toList := by
  unfold option? at known
  split at known
  all_goals first
    | decide
    | cases known

theorem readFront_joined (known : option? none name = some option) (value : String)
    (rest : List String) (collected : Collected) :
    readFront (joined name value :: rest) collected =
      (do readFront rest (← collected.take option value)) := by
  have noEnd : joined name value ≠ "--" := joined_ne (by decide)
  rw [readFront]
  simp [noEnd, looksLikeOption_joined, flag?_joined,
    longOption?_joined (eq_not_mem_of_option? known), known]

theorem readCommand_joined {command : Command} (known : option? (some command) name = some option)
    (value : String) (rest : List String) (collected : Collected) :
    readCommand command (joined name value :: rest) collected =
      (do readCommand command rest (← collected.take option value)) := by
  have noEnd : joined name value ≠ "--" := joined_ne (by decide)
  rw [readCommand]
  simp [noEnd, looksLikeOption_joined, flag?_joined,
    longOption?_joined (eq_not_mem_of_option? known), known]

/-! ## In front of the command -/

variable {collected : Collected} {rest : List String}

theorem take_config (proper : value ≠ "") (first : collected.config = none) :
    collected.take .config value = .ok { collected with config := some value } := by
  simp [Collected.take, first, proper]

theorem take_libDir (proper : value ≠ "") (first : collected.libDir = none) :
    collected.take .libDir value = .ok { collected with libDir := some value } := by
  simp [Collected.take, first, proper]

theorem take_openDocument (proper : value ≠ "") :
    collected.take .openDocument value =
      .ok { collected with opened := collected.opened ++ [value] } := by
  simp [Collected.take, proper]

theorem readFront_config {config : Option String} (proper : config ≠ some "")
    (first : collected.config = none) :
    readFront ((config.map (joined "config")).toList ++ rest) collected =
      readFront rest { collected with config } := by
  cases config with
  | none =>
      have same : collected = { collected with config := none } := by rw [← first]
      exact congrArg (readFront rest) same
  | some value =>
      have filled : value ≠ "" := fun same => proper (congrArg some same)
      refine (readFront_joined rfl value rest collected).trans ?_
      rw [take_config filled first]
      rfl

theorem readFront_libDir {libDir : Option String} (proper : libDir ≠ some "")
    (first : collected.libDir = none) :
    readFront ((libDir.map (joined "lib-dir")).toList ++ rest) collected =
      readFront rest { collected with libDir } := by
  cases libDir with
  | none =>
      have same : collected = { collected with libDir := none } := by rw [← first]
      exact congrArg (readFront rest) same
  | some value =>
      have filled : value ≠ "" := fun same => proper (congrArg some same)
      refine (readFront_joined rfl value rest collected).trans ?_
      rw [take_libDir filled first]
      rfl

theorem readFront_command {command : Command} (named : Command.ofName? name = some command) :
    readFront (name :: rest) collected = .ok (collected, command, rest) := by
  have plain : name ≠ "--" ∧ looksLikeOption name.toList = false := by
    unfold Command.ofName? at named
    split at named
    all_goals first
      | decide
      | cases named
  rw [readFront]
  simp [plain, named]

/-! ## Behind the command -/

theorem readCommand_target (target : Option String) :
    readCommand .defaultLib (target.map (joined "target")).toList .none =
      .ok { Collected.none with target } := by
  cases target with
  | none => rfl
  | some value =>
      have known : option? (some .defaultLib) "target" = some .target := rfl
      exact readCommand_joined known value [] .none

theorem foldlM_takePositional {documents : List String} (proper : "" ∉ documents) :
    documents.foldlM (·.takePositional .files ·) collected =
      .ok { collected with positionals := collected.positionals ++ documents } := by
  induction documents generalizing collected with
  | nil =>
      rw [List.append_nil]
      rfl
  | cons document documents induction =>
      rw [List.mem_cons, not_or] at proper
      have taken : collected.takePositional .files document =
          .ok { collected with positionals := collected.positionals ++ [document] } := by
        simp [Collected.takePositional, Ne.symm proper.1]
      rw [List.foldlM_cons, taken]
      refine (induction proper.2).trans ?_
      rw [List.append_assoc, List.singleton_append]

theorem readCommand_positionals {documents : List String} (proper : "" ∉ documents) :
    readCommand .files ("--" :: documents) collected =
      .ok { collected with positionals := collected.positionals ++ documents } := by
  rw [readCommand, if_pos rfl, foldlM_takePositional proper]

theorem readCommand_documents {documents : List String} (proper : "" ∉ documents)
    (unnamed : collected.positionals = []) :
    readCommand .text (documents.map (joined "open") ++ ["--", name]) collected =
      .ok { collected with opened := collected.opened ++ documents, positionals := [name] } := by
  induction documents generalizing collected with
  | nil => simp [readCommand, Collected.takePositional, unnamed]
  | cons document documents induction =>
      rw [List.mem_cons, not_or] at proper
      refine (readCommand_joined rfl document _ collected).trans ?_
      rw [take_openDocument (Ne.symm proper.1)]
      have later := @induction { collected with opened := collected.opened ++ [document] }
        proper.2 unnamed
      rw [List.append_assoc, List.singleton_append] at later
      exact later

theorem readAll_of_read {arguments : List String} {front behind : Collected} {command : Command}
    {asked : Action} (read : readFront arguments .none = .ok (front, command, rest))
    (readBehind : readCommand command rest .none = .ok behind)
    (acts : action command behind = .ok asked) :
    readAll arguments = .ok {
      config := behind.config.or front.config
      libDir := behind.libDir.or front.libDir
      action := asked } := by
  simp only [readAll, read, readBehind, acts, bind, Except.bind, pure, Except.pure]

theorem readAll_arguments {invocation : Invocation} (proper : invocation.Proper) :
    readAll invocation.arguments = .ok invocation := by
  rcases invocation with ⟨config, libDir, asked⟩
  have front : readFront (Invocation.arguments ⟨config, libDir, asked⟩) .none =
      readFront asked.arguments ⟨config, libDir, none, [], []⟩ := by
    rw [Invocation.arguments, readFront_config proper.config rfl,
      readFront_libDir proper.libDir rfl]
    rfl
  have noneEmpty : "" ∉ asked.documents := proper.documents
  cases asked with
  | defaultLib target =>
      exact readAll_of_read (front.trans (readFront_command rfl)) (readCommand_target target) rfl
  | files documents =>
      exact readAll_of_read (front.trans (readFront_command rfl))
        (readCommand_positionals noneEmpty) rfl
  | text name documents =>
      exact readAll_of_read (front.trans (readFront_command rfl))
        (readCommand_documents noneEmpty rfl) rfl

/-- The arguments of a proper invocation are read as that invocation. -/
theorem parse_arguments {invocation : Invocation} (proper : invocation.Proper) :
    parse invocation.arguments = .run invocation := by
  rw [parse, readAll_arguments proper]

/-! ## No empty paths -/

/-- No path among what has been read for a command is empty. -/
structure Collected.Proper (command : Command) (collected : Collected) : Prop where
  config : collected.config ≠ some ""
  libDir : collected.libDir ≠ some ""
  opened : "" ∉ collected.opened
  positionals : command = .files → "" ∉ collected.positionals

theorem Collected.proper_none (command : Command) : Collected.none.Proper command :=
  ⟨nofun, nofun, nofun, fun _ => nofun⟩

theorem not_mem_concat {values : List String} (absent : "" ∉ values) {value : String}
    (filled : value.isEmpty = false) : "" ∉ values ++ [value] := by
  intro listed
  rcases List.mem_append.1 listed with before | last
  · exact absent before
  · rw [← List.mem_singleton.1 last] at filled
    cases filled

theorem Collected.Proper.take {command : Command} {collected next : Collected}
    (proper : collected.Proper command) {option : OptionName} {value : String}
    (taken : collected.take option value = .ok next) : next.Proper command := by
  have filled (nonempty : value.isEmpty = false) : some value ≠ some "" := by
    intro same
    cases same
    cases nonempty
  cases option with
  | config =>
      rcases Results.guarded_eq_ok_iff.1 taken with ⟨accepted, rfl⟩
      simp only [Bool.or_eq_true, not_or, Bool.not_eq_true] at accepted
      exact { proper with config := filled accepted.2 }
  | libDir =>
      rcases Results.guarded_eq_ok_iff.1 taken with ⟨accepted, rfl⟩
      simp only [Bool.or_eq_true, not_or, Bool.not_eq_true] at accepted
      exact { proper with libDir := filled accepted.2 }
  | target =>
      rcases Results.guarded_eq_ok_iff.1 taken with ⟨_, rfl⟩
      exact { proper with }
  | openDocument =>
      rcases Results.guarded_eq_ok_iff.1 taken with ⟨accepted, rfl⟩
      rw [Bool.not_eq_true] at accepted
      exact { proper with opened := not_mem_concat proper.opened accepted }

theorem Collected.Proper.takePositional {command : Command} {collected next : Collected}
    (proper : collected.Proper command) {value : String}
    (taken : collected.takePositional command value = .ok next) : next.Proper command := by
  cases command with
  | defaultLib => cases taken
  | files =>
      rcases Results.guarded_eq_ok_iff.1 taken with ⟨accepted, rfl⟩
      rw [Bool.not_eq_true] at accepted
      exact { proper with
        positionals := fun listing => not_mem_concat (proper.positionals listing) accepted }
  | text =>
      simp only [Collected.takePositional] at taken
      split at taken
      · cases taken
        exact { proper with positionals := nofun }
      · cases taken

theorem Collected.Proper.readCommand {command : Command} {arguments : List String}
    {collected last : Collected} (proper : collected.Proper command)
    (read : readCommand command arguments collected = .ok last) : last.Proper command := by
  fun_induction CommandLine.readCommand command arguments collected with
  | case1 collected =>
      cases read
      exact proper
  | case2 rest collected =>
      exact Results.holds_of_foldlM (fun _ _ _ proper => proper.takePositional) proper read
  | case6 _ _ _ _ _ _ _ _ _ _ _ induction | case8 _ _ _ _ _ _ _ _ _ _ _ _ induction =>
      rcases Results.bind_eq_ok_iff.1 read with ⟨next, taken, later⟩
      exact induction next (proper.take taken) later
  | case10 argument rest collected _ _ induction =>
      rcases Results.bind_eq_ok_iff.1 read with ⟨next, taken, later⟩
      exact induction next (proper.takePositional taken) later
  | case3 | case4 | case5 | case7 | case9 => cases read

theorem Collected.Proper.readFront {other command : Command} {arguments rest : List String}
    {collected last : Collected} (proper : collected.Proper other)
    (read : readFront arguments collected = .ok (last, command, rest)) : last.Proper other := by
  fun_induction CommandLine.readFront arguments collected with
  | case6 _ _ _ _ _ _ _ _ _ _ _ induction | case8 _ _ _ _ _ _ _ _ _ _ _ _ induction =>
      rcases Results.bind_eq_ok_iff.1 read with ⟨next, taken, later⟩
      exact induction next (proper.take taken) later
  | case10 =>
      cases read
      exact proper
  | case1 | case2 | case3 | case4 | case5 | case7 | case9 | case11 => cases read

theorem or_ne {first second : Option String} (behind : first ≠ some "") (front : second ≠ some "") :
    first.or second ≠ some "" := by
  cases first with
  | none => exact front
  | some value => exact behind

/-- Whatever the arguments are, what they ask for has no empty path. -/
theorem proper_of_parse {arguments : List String} {invocation : Invocation}
    (parsed : parse arguments = .run invocation) : invocation.Proper := by
  have read : readAll arguments = .ok invocation := by
    unfold parse at parsed
    split at parsed
    · next read => rw [read, Outcome.run.inj parsed]
    all_goals cases parsed
  rcases Results.bind_eq_ok_iff.1 read with ⟨⟨front, command, rest⟩, readFront, later⟩
  rcases Results.bind_eq_ok_iff.1 later with ⟨behind, readBehind, later⟩
  rcases Results.bind_eq_ok_iff.1 later with ⟨asked, acts, same⟩
  cases same
  have properFront := (Collected.proper_none command).readFront readFront
  have proper := (Collected.proper_none command).readCommand readBehind
  refine ⟨or_ne proper.config properFront.config, or_ne proper.libDir properFront.libDir, ?_⟩
  change "" ∉ asked.documents
  unfold CommandLine.action at acts
  split at acts
  · cases acts
    exact nofun
  · cases acts
    exact proper.positionals rfl
  · cases acts
    exact proper.opened
  · cases acts

/-- What can be asked for at all. -/
theorem exists_parse_iff {invocation : Invocation} :
    (∃ arguments, parse arguments = .run invocation) ↔ invocation.Proper := by
  constructor
  · intro asked
    rcases asked with ⟨_, parsed⟩
    exact proper_of_parse parsed
  · intro proper
    exact ⟨_, parse_arguments proper⟩

end LanguageWorker.CommandLine
