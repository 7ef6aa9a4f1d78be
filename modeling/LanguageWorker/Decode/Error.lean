import LanguageWorker.Binary64.Shortest
import LanguageWorker.Json
import LanguageWorker.Text.Quoted

namespace LanguageWorker

/-! Why a payload, a record or a parameter list could not be read. Causes come
in two groups: the text is not JSON at the place where it was needed, or it is
JSON of the wrong shape. -/

/-- Where and how a text fails to be JSON. -/
inductive Json.Malformed where
  | endInValue
  | endInObject
  | endInList
  | endInString
  | expectedValue
  | expectedIdent
  | invalidNumber
  | numberOutOfRange
  | expectedColon
  | expectedCommaOrBrace
  | expectedCommaOrBracket
  | keyNotString
  | trailingComma
  | trailingCharacters
  | invalidEscape
  | controlCharacter
  | unfinishedSurrogatePair
  | loneSurrogate
  | tooDeep
  deriving DecidableEq, Repr

namespace Json.Malformed

def message : Json.Malformed → String
  | endInValue => "EOF while parsing a value"
  | endInObject => "EOF while parsing an object"
  | endInList => "EOF while parsing a list"
  | endInString => "EOF while parsing a string"
  | expectedValue => "expected value"
  | expectedIdent => "expected ident"
  | invalidNumber => "invalid number"
  | numberOutOfRange => "number out of range"
  | expectedColon => "expected `:`"
  | expectedCommaOrBrace => "expected `,` or `\x7d`"
  | expectedCommaOrBracket => "expected `,` or `]`"
  | keyNotString => "key must be a string"
  | trailingComma => "trailing comma"
  | trailingCharacters => "trailing characters"
  | invalidEscape => "invalid escape"
  | controlCharacter => "control character (\\u0000-\\u001F) found while parsing a string"
  | unfinishedSurrogatePair => "unexpected end of hex escape"
  | loneSurrogate => "lone leading surrogate in hex escape"
  | tooDeep => "recursion limit exceeded"

end Json.Malformed

/-- What stood where something else was expected. -/
inductive Found where
  | null
  | boolean (value : Bool)
  | integer (value : Int)
  | float (value : Binary64)
  | string (value : String)
  | sequence
  | map
  deriving DecidableEq, Repr

namespace Found

def describe : Found → String
  | null => "null"
  | boolean true => "boolean `true`"
  | boolean false => "boolean `false`"
  | integer value => "integer `" ++ toString value ++ "`"
  | float value => "floating point `" ++ value.toText ++ "`"
  | string value => "string " ++ Text.quoted value
  | sequence => "sequence"
  | map => "map"

end Found

/-- What a value is, seen from outside. -/
def Json.found : Json → Found
  | .null => .null
  | .boolean value => .boolean value
  | .number (.integer value) => .integer value
  | .number (.float value) => .float value
  | .string value => .string value
  | .array _ => .sequence
  | .object _ => .map

/-- Why something could not be decoded. -/
inductive DecodeError where
  | malformed (cause : Json.Malformed)
  | invalidType (found : Found) (expected : String)
  | invalidValue (found : Found) (expected : String)
  | invalidLength (length : Nat) (expected : String)
  | missingField (name : String)
  | duplicateField (name : String)
  | unknownVariant (name : String) (known : List String)
  | noVariantMatches (type : String)
  | unknownTarget (name : String)
  | numberTooLarge (token : String)
  deriving DecidableEq, Repr

namespace DecodeError

def message : DecodeError → String
  | malformed cause => cause.message
  | invalidType found expected => "invalid type: " ++ found.describe ++ ", expected " ++ expected
  | invalidValue found expected => "invalid value: " ++ found.describe ++ ", expected " ++ expected
  | invalidLength length expected =>
      "invalid length " ++ toString length ++ ", expected " ++ expected
  | missingField name => "missing field `" ++ name ++ "`"
  | duplicateField name => "duplicate field `" ++ name ++ "`"
  | unknownVariant name known =>
      "unknown variant `" ++ name ++ "`, expected one of " ++
        ", ".intercalate (known.map fun variant => "`" ++ variant ++ "`")
  | noVariantMatches type => "data did not match any variant of untagged enum " ++ type
  | unknownTarget name => "unknown script target: " ++ name
  | numberTooLarge token => "number `" ++ token ++ "` is too large"

end DecodeError

end LanguageWorker
