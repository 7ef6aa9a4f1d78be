import LanguageWorker.Payload.CompilerOptions
import LanguageWorker.Payload.ExtraLibs

namespace LanguageWorker

/-! The payload from which a worker is created: options for the engine, extra
declaration files, and what else the caller wants to set. Every part may be left out. -/

/-- Preferences of a user, carried to the engine as they are. -/
abbrev Preferences := Json.Object

/-- What a worker is created from. -/
structure Payload where
  compilerOptions : CompilerOptions
  extraLibs : ExtraLibs
  /-- The locator of a custom worker, when one is asked for. -/
  customWorkerPath : Option String
  inlayHintsOptions : Option Preferences

namespace Payload

def empty : Payload := ⟨.empty, .empty, none, none⟩

instance : Inhabited Payload := ⟨empty⟩

def record : Record Payload :=
  ((Record.defaulted "compilerOptions" CompilerOptions.decoder .empty).and <|
    (Record.defaulted "extraLibs" ExtraLibs.decoder .empty).and <|
    (Record.optional "customWorkerPath" Decoder.string).and <|
    Record.optional "inlayHintsOptions" Decoder.object).map
    fun (compilerOptions, extraLibs, customWorkerPath, inlayHintsOptions) =>
      { compilerOptions, extraLibs, customWorkerPath, inlayHintsOptions }

def decoder : Decoder Payload := record.decoder "CreateData"

def toJson (payload : Payload) : Json :=
  Json.ofMembers
    ([("compilerOptions", payload.compilerOptions.toJson),
      ("extraLibs", ExtraLibs.toJson payload.extraLibs)] ++
      Json.member? "customWorkerPath" (payload.customWorkerPath.map Json.string) ++
      Json.member? "inlayHintsOptions" (payload.inlayHintsOptions.map Json.Object.toJson))

end Payload

end LanguageWorker
