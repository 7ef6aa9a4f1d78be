import LanguageWorker.Decode.Record

namespace LanguageWorker

/-! Records of places and edits that the engine is asked about or answers with. -/

/-- A stretch of a file's text, in bytes. -/
structure Span where
  start : UInt32
  length : UInt32
  deriving DecidableEq, Repr

namespace Span

/-- The span between two offsets; it is empty where they are reversed. -/
def ofBounds (start stop : UInt32) : Span :=
  ⟨start, if start ≤ stop then stop - start else 0⟩

/-- The offset behind a span, if it is small enough to be one. -/
def stop? (span : Span) : Option UInt32 :=
  if span.start.toNat + span.length.toNat < UInt32.size then some (span.start + span.length)
  else none

def record : Record Span :=
  ((Record.required "start" Decoder.word).and (Record.required "length" Decoder.word)).map
    fun (start, length) => { start, length }

def decoder : Decoder Span := record.decoder "TextSpan"

def toJson (span : Span) : Json :=
  .object [("length", .ofWord span.length), ("start", .ofWord span.start)]

end Span

/-- A replacement of a stretch of text. -/
structure TextChange where
  span : Span
  newText : String
  deriving DecidableEq, Repr

namespace TextChange

def record : Record TextChange :=
  ((Record.required "span" Span.decoder).and (Record.required "newText" Decoder.string)).map
    fun (span, newText) => { span, newText }

def decoder : Decoder TextChange := record.decoder "TextChange"

def toJson (change : TextChange) : Json :=
  .object [("newText", .string change.newText), ("span", change.span.toJson)]

end TextChange

/-- A file that the engine emits. -/
structure OutputFile where
  name : String
  writeByteOrderMark : Bool
  text : String
  deriving DecidableEq, Repr

namespace OutputFile

def record : Record OutputFile :=
  ((Record.required "name" Decoder.string).and <|
    (Record.required "writeByteOrderMark" Decoder.boolean).and <|
    Record.required "text" Decoder.string).map
    fun (name, writeByteOrderMark, text) => { name, writeByteOrderMark, text }

def decoder : Decoder OutputFile := record.decoder "OutputFile"

def toJson (file : OutputFile) : Json :=
  .object [("name", .string file.name), ("text", .string file.text),
    ("writeByteOrderMark", .boolean file.writeByteOrderMark)]

end OutputFile

/-- All that the engine emits for a file. -/
structure EmitOutput where
  outputFiles : List OutputFile
  emitSkipped : Bool
  deriving DecidableEq, Repr

namespace EmitOutput

def empty : EmitOutput := ⟨[], false⟩

def record : Record EmitOutput :=
  ((Record.required "outputFiles" (Decoder.list OutputFile.decoder)).and
    (Record.required "emitSkipped" Decoder.boolean)).map
    fun (outputFiles, emitSkipped) => { outputFiles, emitSkipped }

def decoder : Decoder EmitOutput := record.decoder "EmitOutput"

def toJson (output : EmitOutput) : Json :=
  .object [("emitSkipped", .boolean output.emitSkipped),
    ("outputFiles", .array (output.outputFiles.map OutputFile.toJson))]

end EmitOutput

/-- Where a rename looks for occurrences, and how it writes them. -/
structure RenameOptions where
  findInStrings : Bool
  findInComments : Bool
  provideAffixText : Bool
  deriving DecidableEq, Repr

namespace RenameOptions

def affixKey : String := "providePrefixAndSuffixTextForRename"

def record : Record RenameOptions :=
  ((Record.required "findInStrings" Decoder.boolean).and <|
    (Record.required "findInComments" Decoder.boolean).and <|
    Record.required affixKey Decoder.boolean).map
    fun (findInStrings, findInComments, provideAffixText) =>
      { findInStrings, findInComments, provideAffixText }

def decoder : Decoder RenameOptions := record.decoder "RenameLocationOptions"

def toJson (options : RenameOptions) : Json :=
  .object [("findInComments", .boolean options.findInComments),
    ("findInStrings", .boolean options.findInStrings),
    (affixKey, .boolean options.provideAffixText)]

end RenameOptions

end LanguageWorker
