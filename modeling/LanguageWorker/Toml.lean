import LanguageWorker.Binary64

namespace LanguageWorker

/-! The values of a TOML document, and the ways in which a text can fail to be one. -/

/-- A value of a TOML document. A date or time is a table with one member, so
that whoever carries it along need not know about dates. Tables list their
members sorted by key. -/
inductive Toml where
  | string (value : String)
  | integer (value : Int)
  /-- A float; the infinities and NaN are floats without a value. -/
  | float (value : Option Binary64)
  /-- A number that is too large to be held. It may stand in a document, where
  only those who look at it are concerned. -/
  | tooLarge (token : String)
  | boolean (value : Bool)
  | array (items : List Toml)
  | table (members : List (String × Toml))
  deriving Repr, Inhabited

/-- A table of the given members, whose keys are distinct. -/
def Toml.ofMembers (members : List (String × Toml)) : Toml :=
  .table (members.mergeSort fun first second => first.1 ≤ second.1)

/-- Why a text is not a TOML document. -/
inductive Toml.Malformed where
  | unexpectedEnd
  | unexpectedCharacter (character : Char)
  | invalidScalar (token : String)
  | invalidEscape
  | controlCharacter
  | duplicateKey (key : String)
  | tooDeep
  deriving DecidableEq, Repr

namespace Toml.Malformed

def message : Toml.Malformed → String
  | unexpectedEnd => "unexpected end of the document"
  | unexpectedCharacter character => "unexpected character `" ++ String.ofList [character] ++ "`"
  | invalidScalar token => "invalid value `" ++ token ++ "`"
  | invalidEscape => "invalid escape in a string"
  | controlCharacter => "control character in a string or comment"
  | duplicateKey key => "duplicate key `" ++ key ++ "`"
  | tooDeep => "arrays, inline tables or keys are nested too deeply"

end Toml.Malformed

end LanguageWorker
