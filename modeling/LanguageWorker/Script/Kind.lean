import LanguageWorker.Decode.Decoder
import LanguageWorker.Text.Search

namespace LanguageWorker

/-! The kinds of script files, which go by the endings of file names. -/

/-- The dialect in which the engine reads a file. -/
inductive ScriptKind where
  | js
  | jsx
  | ts
  | tsx
  deriving DecidableEq, Repr

namespace ScriptKind

def name : ScriptKind → String
  | js => "js"
  | jsx => "jsx"
  | ts => "ts"
  | tsx => "tsx"

/-- The kind that a file name's ending stands for. -/
def ofExtension? (extension : List Char) : Option ScriptKind :=
  if extension = ['t', 's'] then some ts
  else if extension = ['t', 's', 'x'] then some tsx
  else if extension = ['j', 's'] then some js
  else if extension = ['j', 's', 'x'] then some jsx
  else none

/-- The kind of a file: what stands behind the last dot of its name decides, and
where that says nothing, whether the options allow JavaScript. -/
def ofFileName (fileName : String) (allowJs : Bool) : ScriptKind :=
  match Text.behindLast? '.' fileName.toList >>= ofExtension? with
  | some kind => kind
  | none => if allowJs then js else ts

example : ofFileName "a.b.tsx" true = tsx := by decide
example : ofFileName ".js" false = js := by decide
example : ofFileName "ts" true = js := by decide

def decoder : Decoder ScriptKind :=
  Decoder.variant [("js", js), ("jsx", jsx), ("ts", ts), ("tsx", tsx)]

def toJson (kind : ScriptKind) : Json := .string kind.name

end ScriptKind

end LanguageWorker
