import LanguageWorker.Payload
import LanguageWorker.Script.Kind
import LanguageWorker.Script.Snapshot
import LanguageWorker.Service.Diagnostic
import LanguageWorker.Service.Edit

namespace LanguageWorker

/-! The two sides of the engine: what it is shown of the files, and what it can be
asked. An engine is given as the function from the one to the other. -/

/-- What an engine sees of its surroundings. It can ask, and nothing it asks
changes anything. -/
structure HostView where
  compilationSettings : CompilerOptions
  /-- The open documents followed by the extra libs; a name may come twice. -/
  scriptFileNames : List String
  /-- The version of a file, or nothing for a file that is not known. -/
  scriptVersion : String → String
  scriptSnapshot : String → Option Snapshot
  scriptKind : String → ScriptKind
  currentDirectory : String
  defaultLibFileName : CompilerOptions → String
  isDefaultLibFileName : String → Bool
  /-- The text of a file, or an empty one where there is none. -/
  fileText : String → String
  fileExists : String → Bool

/-- How a call of the engine can fail: with a message, or by breaking off
without any answer. -/
inductive EngineError where
  | reported (message : String)
  | aborted
  deriving DecidableEq, Repr

/-- What a call of the engine comes back with. -/
abbrev Answer (α : Type) := Except EngineError α

/-- An answer of the engine that is handed on as it is. -/
abbrev EngineRecord := Json

/-- Settings of the formatter, handed to the engine as they are. -/
abbrev FormatOptions := Json

/-- The questions an engine answers. Positions are byte offsets into the text of
the file. -/
structure LanguageService where
  syntacticDiagnostics (fileName : String) : Answer (List Diagnostic)
  semanticDiagnostics (fileName : String) : Answer (List Diagnostic)
  suggestionDiagnostics (fileName : String) : Answer (List Diagnostic)
  compilerOptionsDiagnostics : Answer (List Diagnostic)
  completionsAtPosition (fileName : String) (position : UInt32) : Answer (Option EngineRecord)
  completionEntryDetails (fileName : String) (position : UInt32) (entryName : String) :
    Answer (Option EngineRecord)
  signatureHelpItems (fileName : String) (position : UInt32) : Answer (Option EngineRecord)
  quickInfoAtPosition (fileName : String) (position : UInt32) : Answer (Option EngineRecord)
  occurrencesAtPosition (fileName : String) (position : UInt32) :
    Answer (Option (List EngineRecord))
  documentHighlights (fileName : String) (position : UInt32) (filesToSearch : List String) :
    Answer (Option (List EngineRecord))
  definitionAtPosition (fileName : String) (position : UInt32) :
    Answer (Option (List EngineRecord))
  referencesAtPosition (fileName : String) (position : UInt32) :
    Answer (Option (List EngineRecord))
  navigationBarItems (fileName : String) : Answer (List EngineRecord)
  navigationTree (fileName : String) : Answer (Option EngineRecord)
  formattingEditsForDocument (fileName : String) (options : FormatOptions) :
    Answer (List TextChange)
  formattingEditsForRange (fileName : String) (start stop : UInt32) (options : FormatOptions) :
    Answer (List TextChange)
  formattingEditsAfterKeystroke (fileName : String) (position : UInt32) (key : String)
    (options : FormatOptions) : Answer (List TextChange)
  findRenameLocations (fileName : String) (position : UInt32) (options : RenameOptions) :
    Answer (Option (List EngineRecord))
  renameInfo (fileName : String) (position : UInt32) (preferences : Preferences) :
    Answer EngineRecord
  emitOutput (fileName : String) : Answer EmitOutput
  codeFixesAtPosition (fileName : String) (span : Span) (errorCodes : List UInt32)
    (options : FormatOptions) (preferences : Preferences) : Answer (List EngineRecord)
  inlayHints (fileName : String) (span : Span) (preferences : Preferences) :
    Answer (List EngineRecord)

/-- An engine: it builds its service on the view it is given, and the view shows
the state of the moment at every call. -/
abbrev Engine := HostView → LanguageService

end LanguageWorker
