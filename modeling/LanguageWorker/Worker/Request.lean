import LanguageWorker.Payload
import LanguageWorker.Service.Edit
import LanguageWorker.Service.LanguageService
import LanguageWorker.Worker.Method
import LanguageWorker.Worker.Parameters

namespace LanguageWorker

/-! Requests: what a call asks for, once its method is known and its parameters have
been decoded. -/

/-- A call whose parameters have been understood. -/
inductive Request where
  | compilationSettings
  | scriptFileNames
  | scriptText (fileName : String)
  | extraLibs
  | libFiles
  | updateExtraLibs (libs : ExtraLibs)
  | syntacticDiagnostics (fileName : String)
  | semanticDiagnostics (fileName : String)
  | suggestionDiagnostics (fileName : String)
  | compilerOptionsDiagnostics (fileName : String)
  | completionsAtPosition (fileName : String) (position : UInt32)
  | completionEntryDetails (fileName : String) (position : UInt32) (entryName : String)
  | signatureHelpItems (fileName : String) (position : UInt32)
  | quickInfoAtPosition (fileName : String) (position : UInt32)
  | occurrencesAtPosition (fileName : String) (position : UInt32)
  | documentHighlights (fileName : String) (position : UInt32) (filesToSearch : List String)
  | definitionAtPosition (fileName : String) (position : UInt32)
  | referencesAtPosition (fileName : String) (position : UInt32)
  | navigationBarItems (fileName : String)
  | navigationTree (fileName : String)
  | inlayHints (fileName : String) (start stop : UInt32)
  | formattingEditsForDocument (fileName : String) (options : FormatOptions)
  | formattingEditsForRange (fileName : String) (start stop : UInt32) (options : FormatOptions)
  | formattingEditsAfterKeystroke (fileName : String) (position : UInt32) (key : String)
      (options : FormatOptions)
  | renameLocations (fileName : String) (position : UInt32) (options : RenameOptions)
  | renameInfo (fileName : String) (position : UInt32) (preferences : Preferences)
  | codeFixesAtPosition (fileName : String) (start stop : UInt32) (errorCodes : List UInt32)
      (options : FormatOptions)
  | emitOutput (fileName : String)

namespace Request

/-- A file name. -/
def file : Parameters String := .one .string

/-- A file name and a position in the file. -/
def place : Parameters (String × UInt32) := file.and (.one .word)

/-- A file name and two offsets. -/
def range : Parameters (String × UInt32 × UInt32) :=
  file.and ((Parameters.one .word).and (.one .word))

def documentHighlightsParameters : Parameters (String × UInt32 × List String) :=
  file.and ((Parameters.one .word).and (.one (.list .string)))

def completionEntryParameters : Parameters (String × UInt32 × String) :=
  file.and ((Parameters.one .word).and (.one .string))

def documentFormatParameters : Parameters (String × FormatOptions) :=
  file.and (.one .json)

def rangeFormatParameters : Parameters (String × UInt32 × UInt32 × FormatOptions) :=
  file.and ((Parameters.one .word).and ((Parameters.one .word).and (.one .json)))

def keystrokeParameters : Parameters (String × UInt32 × String × FormatOptions) :=
  file.and ((Parameters.one .word).and ((Parameters.one .string).and (.one .json)))

def renameLocationsParameters : Parameters (String × UInt32 × Bool × Bool × Bool) :=
  file.and ((Parameters.one .word).and ((Parameters.one .boolean).and
    ((Parameters.one .boolean).and (.one .boolean))))

def renameInfoParameters : Parameters (String × UInt32 × Preferences) :=
  file.and ((Parameters.one .word).and (.one .object))

def codeFixParameters :
    Parameters (String × UInt32 × UInt32 × List UInt32 × FormatOptions) :=
  file.and ((Parameters.one .word).and ((Parameters.one .word).and
    ((Parameters.one (.list .word)).and (.one .json))))

/-- Understand the parameters of a method. A method that needs none does not look
at what it is given. -/
def decode (method : Method) (given : Json) : Except DecodeError Request :=
  match method with
  | .compilationSettings => .ok .compilationSettings
  | .scriptFileNames => .ok .scriptFileNames
  | .scriptText => (file.map .scriptText).decode given
  | .extraLibs => .ok .extraLibs
  | .libFiles => .ok .libFiles
  | .updateExtraLibs => ((Parameters.one ExtraLibs.decoder).map .updateExtraLibs).decode given
  | .syntacticDiagnostics => (file.map .syntacticDiagnostics).decode given
  | .semanticDiagnostics => (file.map .semanticDiagnostics).decode given
  | .suggestionDiagnostics => (file.map .suggestionDiagnostics).decode given
  | .compilerOptionsDiagnostics => (file.map .compilerOptionsDiagnostics).decode given
  | .completionsAtPosition =>
      (place.map fun (name, position) => .completionsAtPosition name position).decode given
  | .completionEntryDetails =>
      (completionEntryParameters.map fun (name, position, entry) =>
        .completionEntryDetails name position entry).decode given
  | .signatureHelpItems =>
      (place.map fun (name, position) => .signatureHelpItems name position).decode given
  | .quickInfoAtPosition =>
      (place.map fun (name, position) => .quickInfoAtPosition name position).decode given
  | .occurrencesAtPosition =>
      (place.map fun (name, position) => .occurrencesAtPosition name position).decode given
  | .documentHighlights =>
      (documentHighlightsParameters.map fun (name, position, files) =>
        .documentHighlights name position files).decode given
  | .definitionAtPosition =>
      (place.map fun (name, position) => .definitionAtPosition name position).decode given
  | .referencesAtPosition =>
      (place.map fun (name, position) => .referencesAtPosition name position).decode given
  | .navigationBarItems => (file.map .navigationBarItems).decode given
  | .navigationTree => (file.map .navigationTree).decode given
  | .inlayHints =>
      (range.map fun (name, start, stop) => .inlayHints name start stop).decode given
  | .formattingEditsForDocument =>
      (documentFormatParameters.map fun (name, options) =>
        .formattingEditsForDocument name options).decode given
  | .formattingEditsForRange =>
      (rangeFormatParameters.map fun (name, start, stop, options) =>
        .formattingEditsForRange name start stop options).decode given
  | .formattingEditsAfterKeystroke =>
      (keystrokeParameters.map fun (name, position, key, options) =>
        .formattingEditsAfterKeystroke name position key options).decode given
  | .renameLocations =>
      (renameLocationsParameters.map fun (name, position, inStrings, inComments, affix) =>
        .renameLocations name position ⟨inStrings, inComments, affix⟩).decode given
  | .renameInfo =>
      (renameInfoParameters.map fun (name, position, preferences) =>
        .renameInfo name position preferences).decode given
  | .codeFixesAtPosition =>
      (codeFixParameters.map fun (name, start, stop, codes, options) =>
        .codeFixesAtPosition name start stop codes options).decode given
  | .emitOutput => (file.map .emitOutput).decode given

end Request

end LanguageWorker
