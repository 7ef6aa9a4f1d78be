import LanguageWorker.Worker
import LanguageWorker.Worker.Request

namespace LanguageWorker

/-! Answering requests. Parameters arrive as one JSON value and answers leave as
another. Diagnostics leave without their references to files. -/

namespace Worker

/-- An answer of the engine, with its written form. -/
def written {α : Type} (toJson : α → Json) (answer : Answer α) : Except WorkerError Json :=
  match answer with
  | .ok value => .ok (toJson value)
  | .error cause => .error (.engine cause)

/-- Diagnostics of the engine as the editor gets them. -/
def writtenDiagnostics (answer : Answer (List Diagnostic)) : Except WorkerError Json :=
  match answer with
  | .ok diagnostics =>
      match Diagnostics.toJson (Diagnostics.sanitize diagnostics) with
      | .ok value => .ok value
      | .error reference => .error (.serialization reference)
  | .error cause => .error (.engine cause)

/-- A record, or null. -/
def recordToJson (record : Option EngineRecord) : Json := .orNull record

/-- A list of records, or null. -/
def recordsToJson (records : Option (List EngineRecord)) : Json :=
  .orNull (records.map Json.array)

def changesToJson (changes : List TextChange) : Json := .array (changes.map TextChange.toJson)

/-- Answer a request that changes nothing. -/
def query (worker : Worker) (store : Store) (request : Request) : Except WorkerError Json :=
  let host := worker.host store
  let service := worker.service store
  match request with
  | .compilationSettings => .ok worker.settings.toJson
  | .scriptFileNames => .ok (.array (host.scriptFileNames.map Json.string))
  | .scriptText name => .ok (.orNull ((host.scriptText? name).map Json.string))
  | .extraLibs => .ok (ExtraLibs.toJson worker.extraLibs)
  | .libFiles => .ok (LibRegistry.toJson worker.libs)
  | .updateExtraLibs _ => .ok .null
  | .syntacticDiagnostics name => writtenDiagnostics (service.syntacticDiagnostics name)
  | .semanticDiagnostics name => writtenDiagnostics (service.semanticDiagnostics name)
  | .suggestionDiagnostics name => writtenDiagnostics (service.suggestionDiagnostics name)
  | .compilerOptionsDiagnostics _ => writtenDiagnostics service.compilerOptionsDiagnostics
  | .completionsAtPosition name position =>
      written recordToJson (service.completionsAtPosition name position)
  | .completionEntryDetails name position entry =>
      written recordToJson (service.completionEntryDetails name position entry)
  | .signatureHelpItems name position =>
      written recordToJson (service.signatureHelpItems name position)
  | .quickInfoAtPosition name position =>
      written recordToJson (service.quickInfoAtPosition name position)
  | .occurrencesAtPosition name position =>
      written recordsToJson (service.occurrencesAtPosition name position)
  | .documentHighlights name position files =>
      written recordsToJson (service.documentHighlights name position files)
  | .definitionAtPosition name position =>
      written recordsToJson (service.definitionAtPosition name position)
  | .referencesAtPosition name position =>
      written recordsToJson (service.referencesAtPosition name position)
  | .navigationBarItems name => written Json.array (service.navigationBarItems name)
  | .navigationTree name => written recordToJson (service.navigationTree name)
  | .inlayHints name start stop =>
      written Json.array
        (service.inlayHints name (Span.ofBounds start stop) worker.inlayHintsOptions)
  | .formattingEditsForDocument name options =>
      written changesToJson (service.formattingEditsForDocument name options)
  | .formattingEditsForRange name start stop options =>
      written changesToJson (service.formattingEditsForRange name start stop options)
  | .formattingEditsAfterKeystroke name position key options =>
      written changesToJson (service.formattingEditsAfterKeystroke name position key options)
  | .renameLocations name position options =>
      written recordsToJson (service.findRenameLocations name position options)
  | .renameInfo name position preferences =>
      written id (service.renameInfo name position preferences)
  | .codeFixesAtPosition name start stop codes options =>
      written Json.array
        (service.codeFixesAtPosition name (Span.ofBounds start stop) codes options .empty)
  | .emitOutput name => written EmitOutput.toJson (service.emitOutput name)

/-- The worker after a request. -/
def after (worker : Worker) : Request → Worker
  | .updateExtraLibs libs => worker.updateExtraLibs libs
  | _ => worker

/-- Understand a call and answer it. A call that cannot be understood changes
nothing. -/
def dispatch (worker : Worker) (store : Store) (method : String) (given : Json) :
    Worker × Except WorkerError Json :=
  match Method.ofName? method with
  | none => (worker, .error (.unknownMethod method))
  | some known =>
      match Request.decode known given with
      | .error cause => (worker, .error (.invalidParameters method cause))
      | .ok request => (worker.after request, worker.query store request)

end Worker

end LanguageWorker
