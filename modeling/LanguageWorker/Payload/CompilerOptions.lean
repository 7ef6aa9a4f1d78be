import LanguageWorker.Decode.Record
import LanguageWorker.Script.Target

namespace LanguageWorker

/-! The options of the engine. A payload gives them as an object, and they are written
back as one object in which known and unknown options stand side by side. -/

/-- Options of the engine. Two of them matter here as well; all others are
carried through. -/
structure CompilerOptions where
  target : Option ScriptTarget
  allowJs : Option Bool
  other : Json.Object

namespace CompilerOptions

def empty : CompilerOptions := ⟨none, none, .empty⟩

instance : Inhabited CompilerOptions := ⟨empty⟩

/-- Whether JavaScript files are allowed; they are not unless this is said. -/
def allowsJs (options : CompilerOptions) : Bool := options.allowJs.getD false

def record : Record (Option ScriptTarget × Option Bool) :=
  (Record.optional "target" ScriptTarget.decoder).and
    (Record.optional "allowJs" Decoder.boolean)

def decoder : Decoder CompilerOptions :=
  (record.openDecoder "CompilerOptions").map fun ((target, allowJs), other) =>
    { target, allowJs, other }

/-- The two known options are written first, so one of the others that has the
name of a known one takes its place. -/
def toJson (options : CompilerOptions) : Json :=
  Json.ofMembers
    (Json.member? "target" (options.target.map ScriptTarget.toJson) ++
      Json.member? "allowJs" (options.allowJs.map Json.boolean) ++
      options.other.members)

end CompilerOptions

end LanguageWorker
