import LanguageWorker.CommandLine.Arguments
import LanguageWorker.Documents.Store
import LanguageWorker.Host
import LanguageWorker.Libraries.LibRegistry
import LanguageWorker.Payload.File
import LanguageWorker.Text.Percent

namespace LanguageWorker.CommandLine

/-! The program: it shows which files the engine would get to see for a payload, a
folder of declaration files and some open documents. -/

/-- Why a command fails. -/
inductive Failure where
  | payload (cause : LoadError)
  | libraries (folder : String) (cause : FileError)
  | openDocument (path : String) (cause : FileError)
  | readDocument (path : String) (cause : FileError)
  | unknownTarget (raw : String)
  | noSuchFile (name : String)
  deriving DecidableEq, Repr

def Failure.message : Failure → String
  | payload cause => cause.message
  | libraries folder cause => "Failed to load libs from " ++ folder ++ ": " ++ cause.message
  | openDocument path cause => "Failed to open " ++ path ++ ": " ++ cause.message
  | readDocument path cause => "Failed to read " ++ path ++ ": " ++ cause.message
  | unknownTarget raw => "Unknown target: " ++ raw
  | noSuchFile name => "No such file: " ++ name

/-- The target that an argument stands for: an ordinal, or else a name. -/
def target? (raw : String) : Option ScriptTarget :=
  match Text.word? raw.toList with
  | some ordinal => some ⟨ordinal⟩
  | none => ScriptTarget.ofName? raw

/-- The URI of a document at an absolute path. -/
def documentUri (path : String) : String := "file://" ++ Text.percentEncoded path

variable {m : Type → Type} [Monad m]

/-- Open a document in the store, at version one. -/
def openDocument (files : FileSystem m) (store : Store) (path : String) :
    m (Except Failure Store) := do
  match ← files.canonical path with
  | .error cause => return .error (.openDocument path cause)
  | .ok absolute =>
      match ← files.readText absolute with
      | .error cause => return .error (.readDocument absolute cause)
      | .ok text => return .ok (store.openDocument (documentUri absolute) text 1)

/-- Open documents one after the other, up to the first that fails. -/
def openDocuments (files : FileSystem m) : Store → List String → m (Except Failure Store)
  | store, [] => return .ok store
  | store, path :: paths => do
      match ← openDocument files store path with
      | .error cause => return .error cause
      | .ok store => openDocuments files store paths

/-- The built-in declaration files: those of a folder, or none. -/
def loadLibraries (files : FileSystem m) (folder : Option String) :
    m (Except Failure LibRegistry) := do
  match folder with
  | none => return .ok .empty
  | some folder =>
      match ← LibRegistry.ofFolder files folder with
      | .error cause => return .error (.libraries folder cause)
      | .ok libs => return .ok libs

/-- The documents that an action opens. -/
def Action.documents : Action → List String
  | .defaultLib _ => []
  | .files documents => documents
  | .text _ documents => documents

/-- The files that an invocation is about. -/
def buildHost (files : FileSystem m) (environment : Environment) (invocation : Invocation) :
    m (Except Failure Host) := do
  match ← Payload.resolve files environment invocation.config with
  | .error cause => return .error (.payload cause)
  | .ok payload =>
      match ← loadLibraries files invocation.libDir with
      | .error cause => return .error cause
      | .ok libs =>
          match ← openDocuments files .empty invocation.action.documents with
          | .error cause => return .error cause
          | .ok store =>
              return .ok {
                directory := store.directory
                libs
                settings := payload.compilerOptions
                extraLibs := payload.extraLibs }

/-- One line of the listing of files. -/
def fileLine (host : Host) (name : String) : String :=
  name ++ " (version " ++ host.scriptVersion name ++ ")\n"

/-- What an action prints for the files it is about. -/
def print (host : Host) : Action → Except Failure String
  | .defaultLib none => .ok (host.defaultLibFileName host.settings ++ "\n")
  | .defaultLib (some raw) =>
      match target? raw with
      | some target =>
          .ok (host.defaultLibFileName { host.settings with target := some target } ++ "\n")
      | none => .error (.unknownTarget raw)
  | .files _ => .ok (String.join (host.scriptFileNames.map (fileLine host)))
  | .text name _ =>
      match host.scriptText? name with
      | some text => .ok text
      | none => .error (.noSuchFile name)

/-- Carry out an invocation; the answer is what goes to the standard output. -/
def run (files : FileSystem m) (environment : Environment) (invocation : Invocation) :
    m (Except Failure String) := do
  match ← buildHost files environment invocation with
  | .error cause => return .error cause
  | .ok host => return print host invocation.action

/-- What the program says about its version. -/
def versionLine : String := "ts-worker 0.1.0\n"

/-- What the program says about its use. -/
def usage : String :=
  "Inspect the virtual file system a ts-worker presents to its analysis engine\n\n" ++
  "Usage: ts-worker [OPTIONS] <COMMAND>\n\n" ++
  "Commands:\n" ++
  "  default-lib [--target <TARGET>]     Print the default lib file for a compiler target\n" ++
  "  files [DOCUMENTS]...                List the script file names visible to the engine\n" ++
  "  text <NAME> [--open <DOCUMENT>]...  Print the text of a file\n\n" ++
  "Options:\n" ++
  "  --config <FILE>    Creation payload (.json or .toml); defaults to the user config file\n" ++
  "  --lib-dir <DIR>    Directory holding the built-in .d.ts bundle\n" ++
  "  -h, --help         Print help\n" ++
  "  -V, --version      Print version\n"

end LanguageWorker.CommandLine
