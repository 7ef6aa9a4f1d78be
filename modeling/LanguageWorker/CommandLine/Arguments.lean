namespace LanguageWorker.CommandLine

/-! The arguments of the command line. Two options may stand on either side of the
command's name; where both sides give one, the side behind the name wins. An
option is given at most once on each side, except for the documents to open. -/

/-- What the program is asked to do. -/
inductive Action where
  /-- Tell the default declaration file, for a target if one is given. -/
  | defaultLib (target : Option String)
  /-- List the files, with some documents open. -/
  | files (documents : List String)
  /-- Print the text of a file, with some documents open. -/
  | text (name : String) (documents : List String)
  deriving DecidableEq, Repr

structure Invocation where
  config : Option String
  libDir : Option String
  action : Action
  deriving DecidableEq, Repr

/-- What the arguments come to. -/
inductive Outcome where
  | run (invocation : Invocation)
  | version
  | help
  | usageError
  deriving DecidableEq, Repr

/-- Why reading the arguments stops before they make an invocation. -/
inductive Stop where
  | version
  | help
  | usageError
  deriving DecidableEq, Repr

/-- The options that take a value. -/
inductive OptionName where
  | config
  | libDir
  | target
  | openDocument
  deriving DecidableEq, Repr

/-- The names of the commands. -/
inductive Command where
  | defaultLib
  | files
  | text
  deriving DecidableEq, Repr

def Command.ofName? : String → Option Command
  | "default-lib" => some .defaultLib
  | "files" => some .files
  | "text" => some .text
  | _ => none

/-- The option of a long name, as far as a command knows it. -/
def option? (command : Option Command) (name : String) : Option OptionName :=
  match name, command with
  | "config", _ => some .config
  | "lib-dir", _ => some .libDir
  | "target", some .defaultLib => some .target
  | "open", some .text => some .openDocument
  | _, _ => none

/-- What has been read on one side of the command's name. -/
structure Collected where
  config : Option String
  libDir : Option String
  target : Option String
  opened : List String
  positionals : List String

def Collected.none : Collected := ⟨Option.none, Option.none, Option.none, [], []⟩

/-- Take in a value of an option. A path is never empty. -/
def Collected.take (collected : Collected) (option : OptionName) (value : String) :
    Except Stop Collected :=
  match option with
  | .config =>
      if collected.config.isSome || value.isEmpty then .error .usageError
      else .ok { collected with config := some value }
  | .libDir =>
      if collected.libDir.isSome || value.isEmpty then .error .usageError
      else .ok { collected with libDir := some value }
  | .target =>
      if collected.target.isSome then .error .usageError
      else .ok { collected with target := some value }
  | .openDocument =>
      if value.isEmpty then .error .usageError
      else .ok { collected with opened := collected.opened ++ [value] }

/-- Take in an argument that is no option. -/
def Collected.takePositional (collected : Collected) (command : Command) (value : String) :
    Except Stop Collected :=
  let longer := { collected with positionals := collected.positionals ++ [value] }
  match command with
  | .defaultLib => .error .usageError
  | .files => if value.isEmpty then .error .usageError else .ok longer
  | .text => if collected.positionals.isEmpty then .ok longer else .error .usageError

/-- Whether an argument looks like an option and so is no option's value. -/
def looksLikeOption (argument : List Char) : Bool :=
  match argument with
  | '-' :: _ :: _ => true
  | _ => false

/-- A long option split into its name and the value joined to it by `=`. -/
def longOption? (argument : List Char) : Option (String × Option String) :=
  match argument with
  | '-' :: '-' :: rest =>
      let name := String.ofList (rest.takeWhile (· ≠ '='))
      match rest.dropWhile (· ≠ '=') with
      | [] => some (name, Option.none)
      | _ :: value => some (name, some (String.ofList value))
  | _ => Option.none

/-- What an option without value stands for, where there is one of that name. -/
def flag? (command : Option Command) (argument : String) : Option Stop :=
  if argument = "--help" || argument.startsWith "-h" then some .help
  else if command.isNone && (argument = "--version" || argument.startsWith "-V") then
    some .version
  else Option.none

/-- Read the arguments behind the name of a command. -/
def readCommand (command : Command) : List String → Collected → Except Stop Collected
  | [], collected => .ok collected
  | argument :: rest, collected =>
      if argument = "--" then rest.foldlM (·.takePositional command ·) collected
      else if looksLikeOption argument.toList then
        match flag? (some command) argument with
        | some stop => .error stop
        | none =>
            match longOption? argument.toList with
            | none => .error .usageError
            | some (name, joined) =>
                match option? (some command) name with
                | none => .error .usageError
                | some option =>
                    match joined, rest with
                    | some value, rest => do
                        readCommand command rest (← collected.take option value)
                    | none, value :: rest =>
                        if looksLikeOption value.toList then .error .usageError
                        else do readCommand command rest (← collected.take option value)
                    | none, [] => .error .usageError
      else do readCommand command rest (← collected.takePositional command argument)

/-- Whether there is something to explain behind the word `help`: the program, or
one command. -/
def explains : List String → Bool
  | [] => true
  | [name] => (Command.ofName? name).isSome || name = "help"
  | _ => false

/-- Read the arguments up to the name of a command. -/
def readFront : List String → Collected →
    Except Stop (Collected × Command × List String)
  | [], _ => .error .usageError
  | argument :: rest, collected =>
      if argument = "--" then .error .usageError
      else if looksLikeOption argument.toList then
        match flag? Option.none argument with
        | some stop => .error stop
        | none =>
            match longOption? argument.toList with
            | none => .error .usageError
            | some (name, joined) =>
                match option? Option.none name with
                | none => .error .usageError
                | some option =>
                    match joined, rest with
                    | some value, rest => do readFront rest (← collected.take option value)
                    | none, value :: rest =>
                        if looksLikeOption value.toList then .error .usageError
                        else do readFront rest (← collected.take option value)
                    | none, [] => .error .usageError
      else
        match Command.ofName? argument with
        | some command => .ok (collected, command, rest)
        | none => .error (if argument = "help" && explains rest then .help else .usageError)

/-- The action of a command with what was read behind its name. -/
def action (command : Command) (collected : Collected) : Except Stop Action :=
  match command, collected.positionals with
  | .defaultLib, _ => .ok (.defaultLib collected.target)
  | .files, documents => .ok (.files documents)
  | .text, [name] => .ok (.text name collected.opened)
  | .text, _ => .error .usageError

/-- Read all arguments. -/
def readAll (arguments : List String) : Except Stop Invocation := do
  let (front, command, rest) ← readFront arguments .none
  let behind ← readCommand command rest .none
  let action ← action command behind
  return {
    config := behind.config.or front.config
    libDir := behind.libDir.or front.libDir
    action }

/-- What the arguments of the program come to. -/
def parse (arguments : List String) : Outcome :=
  match readAll arguments with
  | .ok invocation => .run invocation
  | .error .version => .version
  | .error .help => .help
  | .error .usageError => .usageError

example : parse ["--config", "a", "files", "--config=b", "x"] =
    .run ⟨some "b", none, .files ["x"]⟩ := by decide +kernel
example : parse ["default-lib", "--target", "-4"] = .usageError := by decide +kernel
example : parse ["text", "--", "-x"] = .run ⟨none, none, .text "-x" []⟩ := by decide +kernel

end LanguageWorker.CommandLine
