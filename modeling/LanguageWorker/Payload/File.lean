import LanguageWorker.Files.FileSystem
import LanguageWorker.Files.Path
import LanguageWorker.Payload
import LanguageWorker.Toml.Document

namespace LanguageWorker

/-! Payloads kept in files. The ending of the file's name tells its format.
Without an explicit file, that of the user is taken, and without that a payload
that says nothing. A file that is there but cannot be used is always an
error. -/

/-- Why the content of a file is not a payload. -/
inductive Payload.Malformed where
  | json (cause : DecodeError)
  | tomlText (cause : Toml.Malformed)
  | toml (cause : DecodeError)
  deriving DecidableEq, Repr

namespace Payload.Malformed

def message : Payload.Malformed → String
  | json cause => cause.message
  | tomlText cause => cause.message
  | toml cause => cause.message

end Payload.Malformed

/-- Why a file gives no payload. -/
inductive LoadError where
  | unreadable (path : String) (cause : FileError)
  | malformed (path : String) (cause : Payload.Malformed)
  | unsupported (path : String)
  deriving DecidableEq, Repr

namespace LoadError

def message : LoadError → String
  | unreadable path cause => "Failed to read " ++ path ++ ": " ++ cause.message
  | malformed path cause => "Failed to parse " ++ path ++ ": " ++ cause.message
  | unsupported path =>
      "Unsupported config format: " ++ path ++ " (expected .json or .toml)"

end LoadError

namespace Payload

/-- The payload that a JSON text holds. -/
def ofJsonText (text : String) : Except Malformed Payload :=
  match decoder.parse text with
  | .ok payload => .ok payload
  | .error cause => .error (.json cause)

/-- The payload that a TOML text holds. -/
def ofTomlText (text : String) : Except Malformed Payload :=
  match Toml.parse text with
  | .error cause => .error (.tomlText cause)
  | .ok document =>
      match decoder.ofToml document with
      | .ok payload => .ok payload
      | .error cause => .error (.toml cause)

/-- The payload in the text of a file. -/
def ofFileText (path text : String) : Except LoadError Payload :=
  let format? : Option (String → Except Malformed Payload) :=
    match Path.extension? path with
    | some "json" => some ofJsonText
    | some "toml" => some ofTomlText
    | _ => none
  match format? with
  | none => .error (.unsupported path)
  | some format =>
      match format text with
      | .ok payload => .ok payload
      | .error cause => .error (.malformed path cause)

/-- The folder of a user's configuration: the one that the environment names, or
else the usual one in the home folder. Empty variables count as unset. -/
def configFolder? (environment : Environment) : Option String :=
  match environment.configHome.filter (!·.isEmpty) with
  | some folder => some folder
  | none => (environment.home.filter (!·.isEmpty)).map fun home => Path.join home ".config"

/-- The path of the user's own file. -/
def userPath? (environment : Environment) : Option String :=
  (configFolder? environment).map fun folder =>
    Path.join (Path.join folder "ts-worker") "worker.toml"

variable {m : Type → Type} [Monad m]

/-- Load the payload of a file. The file is read before its name is looked at. -/
def load (files : FileSystem m) (path : String) : m (Except LoadError Payload) := do
  match ← files.readText path with
  | .error cause => return .error (.unreadable path cause)
  | .ok text => return ofFileText path text

/-- Load the user's own payload, if there is such a file. -/
def loadUser (files : FileSystem m) (environment : Environment) :
    m (Except LoadError (Option Payload)) := do
  match userPath? environment with
  | none => return .ok none
  | some path =>
      if ← files.exists? path then
        return (← load files path).map some
      else return .ok none

/-- The payload to work with: an explicit file has to load, and a missing file of
the user gives the empty payload. -/
def resolve (files : FileSystem m) (environment : Environment) (explicit : Option String) :
    m (Except LoadError Payload) := do
  match explicit with
  | some path => load files path
  | none => return (← loadUser files environment).map (·.getD .empty)

end Payload

end LanguageWorker
