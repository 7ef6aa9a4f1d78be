namespace LanguageWorker

/-! The methods of the worker by the names that an editor uses. -/

/-- The methods that an editor can call. -/
inductive Method where
  | compilationSettings
  | scriptFileNames
  | scriptText
  | extraLibs
  | libFiles
  | updateExtraLibs
  | syntacticDiagnostics
  | semanticDiagnostics
  | suggestionDiagnostics
  | compilerOptionsDiagnostics
  | completionsAtPosition
  | completionEntryDetails
  | signatureHelpItems
  | quickInfoAtPosition
  | occurrencesAtPosition
  | documentHighlights
  | definitionAtPosition
  | referencesAtPosition
  | navigationBarItems
  | navigationTree
  | inlayHints
  | formattingEditsForDocument
  | formattingEditsForRange
  | formattingEditsAfterKeystroke
  | renameLocations
  | renameInfo
  | codeFixesAtPosition
  | emitOutput
  deriving DecidableEq, Repr

namespace Method

/-- The name under which an editor calls a method. -/
def name : Method → String
  | compilationSettings => "getCompilationSettings"
  | scriptFileNames => "getScriptFileNames"
  | scriptText => "getScriptText"
  | extraLibs => "getExtraLibs"
  | libFiles => "getLibFiles"
  | updateExtraLibs => "updateExtraLibs"
  | syntacticDiagnostics => "getSyntacticDiagnostics"
  | semanticDiagnostics => "getSemanticDiagnostics"
  | suggestionDiagnostics => "getSuggestionDiagnostics"
  | compilerOptionsDiagnostics => "getCompilerOptionsDiagnostics"
  | completionsAtPosition => "getCompletionsAtPosition"
  | completionEntryDetails => "getCompletionEntryDetails"
  | signatureHelpItems => "getSignatureHelpItems"
  | quickInfoAtPosition => "getQuickInfoAtPosition"
  | occurrencesAtPosition => "getOccurrencesAtPosition"
  | documentHighlights => "getDocumentHighlights"
  | definitionAtPosition => "getDefinitionAtPosition"
  | referencesAtPosition => "getReferencesAtPosition"
  | navigationBarItems => "getNavigationBarItems"
  | navigationTree => "getNavigationTree"
  | inlayHints => "provideInlayHints"
  | formattingEditsForDocument => "getFormattingEditsForDocument"
  | formattingEditsForRange => "getFormattingEditsForRange"
  | formattingEditsAfterKeystroke => "getFormattingEditsAfterKeystroke"
  | renameLocations => "findRenameLocations"
  | renameInfo => "getRenameInfo"
  | codeFixesAtPosition => "getCodeFixesAtPosition"
  | emitOutput => "getEmitOutput"

/-- All methods, in the order in which they are announced. -/
def all : List Method :=
  [compilationSettings, scriptFileNames, scriptText, extraLibs, libFiles, updateExtraLibs,
    syntacticDiagnostics, semanticDiagnostics, suggestionDiagnostics,
    compilerOptionsDiagnostics, completionsAtPosition, completionEntryDetails,
    signatureHelpItems, quickInfoAtPosition, occurrencesAtPosition, documentHighlights,
    definitionAtPosition, referencesAtPosition, navigationBarItems, navigationTree,
    inlayHints, formattingEditsForDocument, formattingEditsForRange,
    formattingEditsAfterKeystroke, renameLocations, renameInfo, codeFixesAtPosition,
    emitOutput]

/-- The method of a name. -/
def ofName? (name : String) : Option Method :=
  all.find? fun method => method.name == name

end Method

end LanguageWorker
