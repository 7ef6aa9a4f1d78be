import LanguageWorker.Decode.Record
import LanguageWorker.OrderedMap

namespace LanguageWorker

/-! Declaration files that come with a payload or are sent later. Each has a version, by
which the engine notices that a file has changed. -/

/-- A declaration file supplied by the caller. -/
structure ExtraLib where
  content : String
  version : UInt32
  deriving DecidableEq, Repr

namespace ExtraLib

def record : Record ExtraLib :=
  ((Record.required "content" Decoder.string).and (Record.required "version" Decoder.word)).map
    fun (content, version) => { content, version }

def decoder : Decoder ExtraLib := record.decoder "ExtraLib"

def toJson (lib : ExtraLib) : Json :=
  .object [("content", .string lib.content), ("version", .ofWord lib.version)]

end ExtraLib

/-- Extra declaration files by name, in the order of their registration. -/
abbrev ExtraLibs := OrderedMap ExtraLib

namespace ExtraLibs

/-- In a text the order of the members is the order of registration; values that
have been read before come sorted by name. -/
def decoder : Decoder ExtraLibs :=
  (Decoder.members ExtraLib.decoder).map OrderedMap.ofList

def toJson (libs : ExtraLibs) : Json :=
  Json.ofMembers (libs.entries.map fun (name, lib) => (name, lib.toJson))

end ExtraLibs

end LanguageWorker
