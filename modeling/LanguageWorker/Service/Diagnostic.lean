import LanguageWorker.Decode.Record

namespace LanguageWorker

/-! Diagnostics of the engine. A diagnostic points back at the file it was made
for, and so does each entry related to it. Such references stay inside the
engine's process: a diagnostic that holds one cannot be written out, and
`sanitize` takes them away. -/

/-- A file as the engine has parsed it. It has no written form. -/
structure SourceFile where
  fileName : String
  text : String
  deriving DecidableEq, Repr

inductive Diagnostic.Category where
  | warning
  | error
  | suggestion
  | message
  deriving DecidableEq, Repr

namespace Diagnostic.Category

def name : Diagnostic.Category → String
  | warning => "warning"
  | error => "error"
  | suggestion => "suggestion"
  | message => "message"

def decoder : Decoder Diagnostic.Category :=
  Decoder.variant [("warning", warning), ("error", error), ("suggestion", suggestion),
    ("message", message)]

def toJson (category : Diagnostic.Category) : Json := .string category.name

end Diagnostic.Category

/-- A second place that a diagnostic tells about. -/
structure RelatedInformation where
  file : Option SourceFile
  start : Option UInt32
  length : Option UInt32
  messageText : String
  category : Diagnostic.Category
  code : UInt32
  deriving DecidableEq, Repr

structure Diagnostic where
  file : Option SourceFile
  start : Option UInt32
  length : Option UInt32
  messageText : String
  category : Diagnostic.Category
  code : UInt32
  source : Option String
  relatedInformation : Option (List RelatedInformation)
  deriving DecidableEq, Repr

/-- A reference to a file that keeps a diagnostic from being written. -/
structure BackReference where
  fileName : String
  deriving DecidableEq, Repr

namespace BackReference

def message (reference : BackReference) : String :=
  "diagnostic still references source file " ++ reference.fileName

/-- Nothing can be written past a reference. -/
def refuse (file : Option SourceFile) : Except BackReference Unit :=
  match file with
  | none => .ok ()
  | some file => .error ⟨file.fileName⟩

end BackReference

namespace RelatedInformation

/-- The file is not among the fields that are read. -/
def record : Record RelatedInformation :=
  ((Record.nullable "start" Decoder.word).and <|
    (Record.nullable "length" Decoder.word).and <|
    (Record.required "messageText" Decoder.string).and <|
    (Record.required "category" Diagnostic.Category.decoder).and <|
    Record.required "code" Decoder.word).map
    fun (start, length, messageText, category, code) =>
      { file := none, start, length, messageText, category, code }

def decoder : Decoder RelatedInformation := record.decoder "DiagnosticRelatedInformation"

def toJson (related : RelatedInformation) : Except BackReference Json := do
  BackReference.refuse related.file
  return .object [
    ("category", related.category.toJson),
    ("code", .ofWord related.code),
    ("length", .orNull (related.length.map Json.ofWord)),
    ("messageText", .string related.messageText),
    ("start", .orNull (related.start.map Json.ofWord))]

/-- The entry without its reference to a file. -/
def sanitize (related : RelatedInformation) : RelatedInformation :=
  { related with file := none }

end RelatedInformation

namespace Diagnostic

/-- The file is not among the fields that are read. -/
def record : Record Diagnostic :=
  ((Record.nullable "start" Decoder.word).and <|
    (Record.nullable "length" Decoder.word).and <|
    (Record.required "messageText" Decoder.string).and <|
    (Record.required "category" Category.decoder).and <|
    (Record.required "code" Decoder.word).and <|
    (Record.optional "source" Decoder.string).and <|
    Record.optional "relatedInformation" (Decoder.list RelatedInformation.decoder)).map
    fun (start, length, messageText, category, code, source, relatedInformation) =>
      { file := none, start, length, messageText, category, code, source, relatedInformation }

def decoder : Decoder Diagnostic := record.decoder "Diagnostic"

/-- The written form of the related entries, where there is a list of them. -/
def relatedToJson : Option (List RelatedInformation) → Except BackReference (Option Json)
  | none => .ok none
  | some entries => do return some (.array (← entries.mapM RelatedInformation.toJson))

def toJson (diagnostic : Diagnostic) : Except BackReference Json := do
  BackReference.refuse diagnostic.file
  let related ← relatedToJson diagnostic.relatedInformation
  return .object ([
    ("category", diagnostic.category.toJson),
    ("code", .ofWord diagnostic.code),
    ("length", .orNull (diagnostic.length.map Json.ofWord)),
    ("messageText", .string diagnostic.messageText)] ++
    Json.member? "relatedInformation" related ++
    Json.member? "source" (diagnostic.source.map Json.string) ++
    [("start", .orNull (diagnostic.start.map Json.ofWord))])

/-- The diagnostic without any reference to a file. -/
def sanitize (diagnostic : Diagnostic) : Diagnostic :=
  { diagnostic with
    file := none
    relatedInformation :=
      diagnostic.relatedInformation.map fun entries => entries.map RelatedInformation.sanitize }

end Diagnostic

namespace Diagnostics

/-- The written form of a list, up to the first reference that is in the way. -/
def toJson (diagnostics : List Diagnostic) : Except BackReference Json := do
  return .array (← diagnostics.mapM Diagnostic.toJson)

def sanitize (diagnostics : List Diagnostic) : List Diagnostic :=
  diagnostics.map Diagnostic.sanitize

/-- The same in place, one diagnostic after the other. -/
def clearFiles (diagnostics : Array Diagnostic) : Array Diagnostic :=
  (List.range diagnostics.size).foldl
    (fun cleared index => cleared.modify index Diagnostic.sanitize) diagnostics

end Diagnostics

end LanguageWorker
