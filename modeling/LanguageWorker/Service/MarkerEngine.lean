import LanguageWorker.Service.LanguageService
import LanguageWorker.Text.Classes
import LanguageWorker.Text.Search

namespace LanguageWorker

/-! A small engine that looks for marker words in the text of a file. It reads
everything through its view, so it shows exactly what the worker exposes. Its
diagnostics all refer back to their file. -/

namespace MarkerEngine

/-- The file that an answer is about. -/
def source (view : HostView) (fileName : String) : Answer SourceFile :=
  match view.scriptSnapshot fileName with
  | some snapshot => .ok ⟨fileName, snapshot.text⟩
  | none => .error (.reported ("Could not find source file: '" ++ fileName ++ "'."))

/-- The file, when the position is not past its end. -/
def checkedPosition (view : HostView) (fileName : String) (position : UInt32) :
    Answer SourceFile := do
  let file ← source view fileName
  if position.toNat ≤ Text.byteLength file.text.toList then return file
  else
    throw (.reported ("Position " ++ toString position.toNat ++ " is outside of " ++ fileName))

/-- A diagnostic for every place where a marker stands. -/
def markerDiagnostics (file : SourceFile) (marker : String) (code : UInt32) (message : String)
    (category : Diagnostic.Category)
    (related : Option (List RelatedInformation)) : List Diagnostic :=
  (Text.occurrences marker.toList file.text.toList).map fun offset => {
    file := some file
    start := some (UInt32.ofNat offset)
    length := some (UInt32.ofNat (Text.byteLength marker.toList))
    messageText := message
    category
    code
    source := none
    relatedInformation := related }

/-- The entry that goes with a semantic diagnostic. -/
def declaration (file : SourceFile) : RelatedInformation where
  file := some file
  start := some 0
  length := some 0
  messageText := "The type was declared here."
  category := .message
  code := 6500

def syntacticMarker : String := "ERR"

def semanticMarker : String := "any"

def suggestionMarker : String := "var "

def syntacticDiagnostics (view : HostView) (fileName : String) : Answer (List Diagnostic) := do
  let file ← source view fileName
  return markerDiagnostics file syntacticMarker 1005 "';' expected." .error none

def semanticDiagnostics (view : HostView) (fileName : String) : Answer (List Diagnostic) := do
  let file ← source view fileName
  return markerDiagnostics file semanticMarker 7005 "Variable implicitly has an 'any' type."
    .error (some [declaration file])

def suggestionDiagnostics (view : HostView) (fileName : String) : Answer (List Diagnostic) := do
  let file ← source view fileName
  return markerDiagnostics file suggestionMarker 80004 "Use 'let' instead." .suggestion none

def compilerOptionsDiagnostics (view : HostView) : Answer (List Diagnostic) :=
  if view.compilationSettings.other.contains "outFile" then
    .ok [{
      file := some ⟨view.defaultLibFileName view.compilationSettings, ""⟩
      start := none
      length := none
      messageText := "Option 'outFile' is not supported."
      category := .error
      code := 5053
      source := none
      relatedInformation := none }]
  else .ok []

/-- The answer to a question about a position that needs no further thought. -/
def positionRecord (view : HostView) (operation fileName : String) (position : UInt32) :
    EngineRecord :=
  .object [
    ("fileName", .string fileName),
    ("op", .string operation),
    ("position", .ofWord position),
    ("version", .string (view.scriptVersion fileName))]

def recordAtPosition (view : HostView) (operation fileName : String) (position : UInt32) :
    Answer EngineRecord := do
  let _ ← checkedPosition view fileName position
  return positionRecord view operation fileName position

/-- Where the word that reaches up to a place begins: one byte behind the last
character that is not part of it. -/
def wordStart (before : List Char) : Nat :=
  match before.reverse.dropWhile Text.isAlphanumeric with
  | [] => 0
  | _ :: earlier => Text.byteLength earlier + 1

/-- The word at a position. The engine breaks off when the position, or the place
where the word is taken to begin, lies inside a character. -/
def wordAt (text : List Char) (position : Nat) : Answer (List Char) :=
  match Text.splitAtByte? text position with
  | none => .error .aborted
  | some (before, after) =>
      let stop := position + Text.byteLength (after.takeWhile Text.isAlphanumeric)
      match Text.slice? text (wordStart before) stop with
      | none => .error .aborted
      | some word => .ok word

def quickInfo (view : HostView) (fileName : String) (position : UInt32) :
    Answer EngineRecord := do
  let file ← checkedPosition view fileName position
  let word ← wordAt file.text.toList position.toNat
  return .object [("text", .string (String.ofList word))]

/-- Every tab becomes four spaces. -/
def tabChange (offset : Nat) : TextChange where
  span := ⟨UInt32.ofNat offset, 1⟩
  newText := "    "

def documentEdits (view : HostView) (fileName : String) : Answer (List TextChange) := do
  let file ← source view fileName
  return (Text.occurrences ['\t'] file.text.toList).map tabChange

/-- Whether a change lies within a range. The end of its span has to be an
offset. -/
def liesWithin (start stop : UInt32) (change : TextChange) : Answer Bool :=
  if start ≤ change.span.start then
    match change.span.stop? with
    | some behind => .ok (behind ≤ stop)
    | none => .error .aborted
  else .ok false

def rangeEdits (view : HostView) (fileName : String) (start stop : UInt32) :
    Answer (List TextChange) := do
  let changes ← documentEdits view fileName
  changes.filterM (liesWithin start stop)

/-- A semicolon is followed by a new line. -/
def keystrokeEdits (view : HostView) (fileName : String) (position : UInt32) (key : String) :
    Answer (List TextChange) := do
  let _ ← checkedPosition view fileName position
  return if key = ";" then [⟨⟨position, 0⟩, "\n"⟩] else []

/-- The name of the emitted file: `.js` instead of `.ts`, or behind all else. -/
def outputName (fileName : List Char) : List Char :=
  let stem :=
    if ['.', 't', 's'].isSuffixOf fileName then fileName.take (fileName.length - 3)
    else fileName
  stem ++ ['.', 'j', 's']

def typeAnnotation : String := ": number"

def emitOutput (view : HostView) (fileName : String) : Answer EmitOutput := do
  let file ← source view fileName
  return {
    outputFiles := [{
      name := String.ofList (outputName fileName.toList)
      writeByteOrderMark := false
      text := String.ofList (Text.without typeAnnotation.toList file.text.toList) }]
    emitSkipped := false }

end MarkerEngine

open MarkerEngine in
/-- The engine of the marker words. -/
def markerEngine : Engine := fun view => {
  syntacticDiagnostics := syntacticDiagnostics view
  semanticDiagnostics := semanticDiagnostics view
  suggestionDiagnostics := suggestionDiagnostics view
  compilerOptionsDiagnostics := compilerOptionsDiagnostics view
  completionsAtPosition := fun fileName position => do
    let _ ← checkedPosition view fileName position
    return some (.object [
      ("entries", .array (view.scriptFileNames.map Json.string)),
      ("version", .string (view.scriptVersion fileName))])
  completionEntryDetails := fun fileName position entryName => do
    let _ ← checkedPosition view fileName position
    return some (.object [("name", .string entryName)])
  signatureHelpItems := fun fileName position => do
    return some (← recordAtPosition view "signatureHelp" fileName position)
  quickInfoAtPosition := fun fileName position => do
    return some (← quickInfo view fileName position)
  occurrencesAtPosition := fun fileName position => do
    return some [← recordAtPosition view "occurrences" fileName position]
  documentHighlights := fun fileName position filesToSearch => do
    let _ ← checkedPosition view fileName position
    return some (filesToSearch.map fun file => .object [("fileName", .string file)])
  definitionAtPosition := fun fileName position => do
    return some [← recordAtPosition view "definition" fileName position]
  referencesAtPosition := fun fileName position => do
    return some [← recordAtPosition view "references" fileName position]
  navigationBarItems := fun fileName => do
    let _ ← source view fileName
    return [.object [("kind", .string "module"), ("text", .string fileName)]]
  navigationTree := fun fileName => do
    let _ ← source view fileName
    return some (.object [("childItems", .array []), ("text", .string fileName)])
  formattingEditsForDocument := fun fileName _ => documentEdits view fileName
  formattingEditsForRange := fun fileName start stop _ => rangeEdits view fileName start stop
  formattingEditsAfterKeystroke := fun fileName position key _ =>
    keystrokeEdits view fileName position key
  findRenameLocations := fun fileName position options => do
    let _ ← checkedPosition view fileName position
    return some [.object [
      ("fileName", .string fileName),
      ("findInComments", .boolean options.findInComments),
      ("findInStrings", .boolean options.findInStrings)]]
  renameInfo := fun fileName position preferences => do
    let _ ← checkedPosition view fileName position
    return .object [("canRename", .boolean true), ("preferences", preferences.toJson)]
  emitOutput := emitOutput view
  codeFixesAtPosition := fun fileName span errorCodes _ preferences => do
    let _ ← source view fileName
    return errorCodes.map fun code => .object [
      ("errorCode", .ofWord code),
      ("preferencesEmpty", .boolean preferences.isEmpty),
      ("span", span.toJson)]
  inlayHints := fun fileName span preferences => do
    let _ ← source view fileName
    return [.object [("preferences", preferences.toJson), ("span", span.toJson)]] }

end LanguageWorker
