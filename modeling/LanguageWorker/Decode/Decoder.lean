import LanguageWorker.Json.Reader
import LanguageWorker.Toml

namespace LanguageWorker

/-! Decoders. Payloads and records come in three forms: as a JSON value that has
already been read, as JSON text, and as a TOML value. A decoder knows how to
take its type from each of them, and the combinators below build all three
ways at once, so the rules of a record are stated in one place. -/

/-- How to read an `α` from each form. -/
structure Decoder (α : Type) where
  ofJson : Json → Except DecodeError α
  ofText : (nesting : Nat) → Json.Reader α
  ofToml : Toml → Except DecodeError α

namespace Toml

mutual

/-- A TOML value as a JSON value. Whole numbers have to fit in 64 bits; the
infinities and NaN become null. -/
def toJson : Toml → Except DecodeError Json
  | .string value => .ok (.string value)
  | .integer value =>
      if -(Nat.pow 2 63) ≤ value && value < Nat.pow 2 64 then .ok (.number (.integer value))
      else .error (.invalidType (.integer value) "any value")
  | .float none => .ok .null
  | .float (some value) => .ok (.number (.float value))
  | .tooLarge token => .error (.numberTooLarge token)
  | .boolean value => .ok (.boolean value)
  | .array items => do return .array (← itemsToJson items)
  | .table members => do return Json.ofMembers (← membersToJson members)

def itemsToJson : List Toml → Except DecodeError (List Json)
  | [] => .ok []
  | item :: rest => do return (← item.toJson) :: (← itemsToJson rest)

def membersToJson : List (String × Toml) → Except DecodeError (List (String × Json))
  | [] => .ok []
  | (key, value) :: rest => do return (key, ← value.toJson) :: (← membersToJson rest)

end

/-- A TOML value seen from outside: arrays and tables without what is in them. A
number that is too large cannot be seen. -/
def outline : Toml → Except DecodeError Json
  | .string value => .ok (.string value)
  | .integer value => .ok (.number (.integer value))
  | .float none => .ok .null
  | .float (some value) => .ok (.number (.float value))
  | .tooLarge token => .error (.numberTooLarge token)
  | .boolean value => .ok (.boolean value)
  | .array _ => .ok (.array [])
  | .table _ => .ok (.object [])

mutual

/-- Pass over a TOML value that nobody asked for. No number in it may be too
large, even so. -/
def skip : Toml → Except DecodeError Unit
  | .tooLarge token => .error (.numberTooLarge token)
  | .array items => skipItems items
  | .table members => skipMembers members
  | _ => .ok ()

def skipItems : List Toml → Except DecodeError Unit
  | [] => .ok ()
  | item :: rest => do
      item.skip
      skipItems rest

def skipMembers : List (String × Toml) → Except DecodeError Unit
  | [] => .ok ()
  | (_, value) :: rest => do
      value.skip
      skipMembers rest

end

end Toml

namespace Decoder

variable {α β : Type}

/-- A complaint about the kind of a value. -/
def mismatch (value : Json) (expected : String) : Except DecodeError α :=
  .error (.invalidType value.found expected)

/-- A complaint about the kind of a TOML value. -/
def tomlMismatch (value : Toml) (expected : String) : Except DecodeError α := do
  mismatch (← value.outline) expected

/-- Hand on a result in a reader. -/
def lift (result : Except DecodeError α) : Json.Reader α := fun text =>
  result.map fun value => (value, text)

/-- Decode something that is neither an array nor an object. The function sees
arrays and objects empty, and has to refuse them. -/
def ofScalar (read : Json → Except DecodeError α) : Decoder α where
  ofJson := read
  ofText _ := do lift (read (← Json.Reader.head))
  ofToml value := do read (← value.outline)

/-- Decode from a value that has been read to its end first. -/
def ofWhole (read : Json → Except DecodeError α) : Decoder α where
  ofJson := read
  ofText nesting := do lift (read (← Json.Reader.value nesting))
  ofToml value := do read (← value.toJson)

def map (transform : α → β) (decoder : Decoder α) : Decoder β where
  ofJson value := (decoder.ofJson value).map transform
  ofText nesting := transform <$> decoder.ofText nesting
  ofToml value := (decoder.ofToml value).map transform

/-- Any value, as it is. -/
def json : Decoder Json := ofWhole .ok

def string : Decoder String := ofScalar fun
  | .string value => .ok value
  | value => mismatch value "a string"

def boolean : Decoder Bool := ofScalar fun
  | .boolean value => .ok value
  | value => mismatch value "a boolean"

/-- A whole number that fits in 32 bits. A float never does. -/
def word : Decoder UInt32 := ofScalar fun
  | .number (.integer value) =>
      if 0 ≤ value && value < UInt32.size then .ok (UInt32.ofNat value.toNat)
      else .error (.invalidValue (.integer value) "u32")
  | value => mismatch value "u32"

/-- Null is nothing. TOML has no null: there, a value is always something. -/
def option (decoder : Decoder α) : Decoder (Option α) where
  ofJson
    | .null => .ok none
    | value => (decoder.ofJson value).map some
  ofText nesting := do
    match ← Json.Reader.peek? with
    | some 'n' => Json.Reader.advance; Json.Reader.letters ['u', 'l', 'l']; return none
    | _ => some <$> decoder.ofText nesting
  ofToml value := (decoder.ofToml value).map some

/-- Open an array or object in a text, if the nesting allows another one. -/
def opened (nesting : Nat) (inside : Nat → Json.Reader α) : Json.Reader α :=
  match nesting with
  | 0 => Json.Reader.fail .tooDeep
  | nesting + 1 => inside nesting

/-- An array of items of one type. -/
def list (item : Decoder α) : Decoder (List α) where
  ofJson
    | .array items => items.mapM item.ofJson
    | value => mismatch value "a sequence"
  ofText nesting := do
    match ← Json.Reader.head with
    | .array _ => opened nesting fun nesting => Json.Reader.array (item.ofText nesting)
    | value => lift (mismatch value "a sequence")
  ofToml
    | .array items => items.mapM item.ofToml
    | value => tomlMismatch value "a sequence"

/-- An object whose members are all of one type, as a list of its members. -/
def members (member : Decoder α) : Decoder (List (String × α)) where
  ofJson
    | .object members => members.mapM fun (key, value) => do
        return (key, ← member.ofJson value)
    | value => mismatch value "a map"
  ofText nesting := do
    match ← Json.Reader.head with
    | .object _ => opened nesting fun nesting =>
        Json.Reader.object (fun sofar key => do
          Json.Reader.colon
          let value ← member.ofText nesting
          return sofar ++ [(key, value)]) []
    | value => lift (mismatch value "a map")
  ofToml
    | .table members => members.mapM fun (key, value) => do
        return (key, ← member.ofToml value)
    | value => tomlMismatch value "a map"

/-- The members of an object that is carried along as it is. -/
def object : Decoder Json.Object :=
  (members json).map Json.Object.ofMembers

/-- What the name of a variant stands for. -/
def namedVariant (variants : List (String × α)) (name : String) : Except DecodeError α :=
  match variants.lookup name with
  | some value => .ok value
  | none => .error (.unknownVariant name (variants.map Prod.fst))

/-- The null that accompanies a variant given as an object's only member. -/
def variantContent : Json → Except DecodeError Unit
  | .null => .ok ()
  | value => mismatch value "unit"

/-- One of several named values, given by its name or by an object with that
name as its only key and null as its value. -/
def variant (variants : List (String × α)) : Decoder α where
  ofJson
    | .string name => namedVariant variants name
    | .object [(name, content)] => do
        let value ← namedVariant variants name
        variantContent content
        return value
    | .object _ => .error (.invalidValue .map "map with a single key")
    | value => mismatch value "string or map"
  ofText nesting := do
    match ← Json.Reader.peek? with
    | none => Json.Reader.fail .endInValue
    | some '"' =>
        Json.Reader.advance
        lift (namedVariant variants (← Json.Reader.stringBody true))
    | some '\x7b' => opened nesting fun _ => do
        Json.Reader.advance
        match ← Json.Reader.peek? with
        | none => Json.Reader.fail .endInObject
        | some '"' => Json.Reader.advance
        | some '\x7d' => Json.Reader.fail .expectedValue
        | some _ => Json.Reader.fail .keyNotString
        let value ← lift (namedVariant variants (← Json.Reader.stringBody true))
        Json.Reader.colon
        lift (variantContent (← Json.Reader.head))
        match ← Json.Reader.peek? with
        | none => Json.Reader.fail .endInObject
        | some '\x7d' =>
            Json.Reader.advance
            return value
        | some _ => Json.Reader.fail .expectedValue
    | some _ => Json.Reader.fail .expectedValue
  ofToml
    | .string name => namedVariant variants name
    | value => tomlMismatch value "string or map"

/-- Decode a whole JSON text. -/
def parse (decoder : Decoder α) (text : String) : Except DecodeError α :=
  (decoder.ofText Json.nestingLimit).whole text

end Decoder

end LanguageWorker
