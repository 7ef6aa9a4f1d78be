import LanguageWorker.Documents.Store
import LanguageWorker.Host

namespace LanguageWorker

/-! A worker serves one editor. It is made once, from a context and a payload,
and afterwards only its extra declaration files change. -/

/-- Why a request to a worker fails. -/
inductive WorkerError where
  /-- The payload asks for a custom worker that nobody has registered. -/
  | customWorkerMissing (locator : String)
  | unknownMethod (method : String)
  | invalidParameters (method : String) (cause : DecodeError)
  | engine (cause : EngineError)
  | serialization (cause : BackReference)
  deriving DecidableEq, Repr

namespace WorkerError

/-- The text of an error. The engine's own messages are not touched, and where it
broke off there is none. -/
def message : WorkerError → String
  | customWorkerMissing locator =>
      "The worker at " ++ locator ++ " does not register a custom worker factory"
  | unknownMethod method => "Unknown method: " ++ method
  | invalidParameters method cause => "Invalid params for " ++ method ++ ": " ++ cause.message
  | engine (.reported message) => message
  | engine .aborted => ""
  | serialization cause => "Serialization failed: " ++ cause.message

end WorkerError

/-- What a worker is given to work with. `documents` is how it sees the editor's
store: the store's own listing, or a list of its own. -/
structure WorkerContext where
  documents : Store → Directory
  engine : Engine
  libs : LibRegistry

structure Worker where
  documents : Store → Directory
  engine : Engine
  libs : LibRegistry
  settings : CompilerOptions
  extraLibs : ExtraLibs
  inlayHintsOptions : Preferences

namespace Worker

/-- The worker of a context and a payload. -/
def ofPayload (context : WorkerContext) (payload : Payload) : Worker where
  documents := context.documents
  engine := context.engine
  libs := context.libs
  settings := payload.compilerOptions
  extraLibs := payload.extraLibs
  inlayHintsOptions := payload.inlayHintsOptions.getD .empty

/-- The files as they are at one moment of the store. -/
def host (worker : Worker) (store : Store) : Host where
  directory := worker.documents store
  libs := worker.libs
  settings := worker.settings
  extraLibs := worker.extraLibs

/-- The engine's service at one moment of the store. -/
def service (worker : Worker) (store : Store) : LanguageService :=
  worker.engine (worker.host store).view

/-- Put other extra declaration files in place of all there are. -/
def updateExtraLibs (worker : Worker) (libs : ExtraLibs) : Worker :=
  { worker with extraLibs := libs }

end Worker

end LanguageWorker
