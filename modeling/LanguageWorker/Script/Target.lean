import LanguageWorker.Decode.Decoder
import LanguageWorker.Text.Classes
import LanguageWorker.Text.Numeral

namespace LanguageWorker

/-! Language tiers, their names and their written form. A name is read without regard
to the case of its letters and to blanks around it. -/

/-- A language tier, known to the engine by its number. Numbers that have no name
here are kept as they are. -/
structure ScriptTarget where
  ordinal : UInt32
  deriving DecidableEq, Repr

namespace ScriptTarget

def es3 : ScriptTarget := ⟨0⟩

def es5 : ScriptTarget := ⟨1⟩

def es2015 : ScriptTarget := ⟨2⟩

def esNext : ScriptTarget := ⟨99⟩

def json : ScriptTarget := ⟨100⟩

/-- Names that do not follow the pattern of years. -/
def aliases : List (String × ScriptTarget) :=
  [("es3", es3), ("es5", es5), ("es6", es2015), ("esnext", esNext), ("latest", esNext),
    ("json", json)]

/-- The year of tier zero, counted back from 2015, which is tier two. -/
def yearBase : UInt32 := 2013

def firstYear : UInt32 := 2015

/-- The tier of a year's edition. -/
def ofYear? (year : UInt32) : Option ScriptTarget :=
  if firstYear ≤ year then some ⟨year - yearBase⟩ else none

/-- A name without the blanks around it, in lower case. Only ASCII letters have
two cases here. -/
def plainName (name : String) : List Char :=
  (Text.trim name.toList).map Char.toLower

/-- The tier that `es` with a year denotes. -/
def ofYearName? : List Char → Option ScriptTarget
  | 'e' :: 's' :: year => Text.word? year >>= ofYear?
  | _ => none

/-- The tier that a plain name denotes: one of the aliases, or `es` with a year. -/
def ofPlainName? (plain : List Char) : Option ScriptTarget :=
  match aliases.lookup (String.ofList plain) with
  | some target => some target
  | none => ofYearName? plain

/-- The tier that a conventional name denotes. -/
def ofName? (name : String) : Option ScriptTarget := ofPlainName? (plainName name)

example : ofName? " ES2017 " = some ⟨4⟩ := by decide
example : ofName? "es4" = none := by decide
example : ofName? "es+02015" = some es2015 := by decide

/-- A target is written as its ordinal or as a name. -/
def ofJson : Json → Except DecodeError ScriptTarget
  | .number (.integer value) =>
      if 0 ≤ value && value < UInt32.size then .ok ⟨UInt32.ofNat value.toNat⟩
      else .error (.noVariantMatches "TargetRepr")
  | .string name =>
      match ofName? name with
      | some target => .ok target
      | none => .error (.unknownTarget name)
  | _ => .error (.noVariantMatches "TargetRepr")

def decoder : Decoder ScriptTarget := Decoder.ofWhole ofJson

def toJson (target : ScriptTarget) : Json := .ofWord target.ordinal

end ScriptTarget

end LanguageWorker
