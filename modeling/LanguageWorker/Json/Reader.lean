import LanguageWorker.Json.Numeral
import LanguageWorker.Text.Bytes

namespace LanguageWorker.Json

/-! Reading JSON text from the front. A reader takes what it needs and leaves
the rest, so a decoder can complain about the shape of a value before the text
behind it has been looked at. -/

/-- A reader of the front of a text. -/
abbrev Reader := StateT (List Char) (Except DecodeError)

/-- How many arrays and objects may be open inside one another. -/
def nestingLimit : Nat := 127

namespace Reader

def fail {α : Type} (cause : Malformed) : Reader α := throw (.malformed cause)

def isSpace (character : Char) : Bool :=
  character = ' ' || character = '\n' || character = '\t' || character = '\r'

/-- Pass the blanks and look at the next character. -/
def peek? : Reader (Option Char) := do
  modify (List.dropWhile isSpace)
  return (← get).head?

/-- Pass one character. -/
def advance : Reader Unit := modify List.tail

/-- Pass the given letters. -/
def letters : List Char → Reader Unit
  | [] => return ()
  | letter :: others => do
      match (← get) with
      | [] => fail .endInValue
      | character :: _ =>
          advance
          if character = letter then letters others else fail .expectedIdent

/-! Strings are read character by character; what an escape has given so far is
kept in a state. -/

/-- The place inside an escape. -/
inductive Escape where
  | none
  | begun
  | hexadecimal (high : Option Nat) (missing value : Nat)
  | pairBackslash (high : Nat)
  | pairLetter (high : Nat)

def hexDigit? (character : Char) : Option Nat :=
  if character.isDigit then some (character.toNat - '0'.toNat)
  else if 'a' ≤ character && character ≤ 'f' then some (character.toNat - 'a'.toNat + 10)
  else if 'A' ≤ character && character ≤ 'F' then some (character.toNat - 'A'.toNat + 10)
  else none

def isHighSurrogate (unit : Nat) : Bool := 0xD800 ≤ unit && unit ≤ 0xDBFF

def isLowSurrogate (unit : Nat) : Bool := 0xDC00 ≤ unit && unit ≤ 0xDFFF

/-- The character that a simple escape stands for. -/
def simpleEscape? : Char → Option Char
  | '"' => some '"'
  | '\\' => some '\\'
  | '/' => some '/'
  | 'b' => some '\x08'
  | 'f' => some '\x0c'
  | 'n' => some '\n'
  | 'r' => some '\r'
  | 't' => some '\t'
  | _ => none

/-- The state behind four hexadecimal digits, with the character they finish. -/
def afterHexadecimal (high : Option Nat) (unit : Nat) :
    Except Malformed (Escape × Option Char) :=
  match high with
  | none =>
      if isLowSurrogate unit then .error .loneSurrogate
      else if isHighSurrogate unit then .ok (.pairBackslash unit, none)
      else .ok (.none, some (Char.ofNat unit))
  | some high =>
      if isLowSurrogate unit then
        .ok (.none, some (Char.ofNat (0x10000 + (high - 0xD800) * 0x400 + (unit - 0xDC00))))
      else .error .loneSurrogate

/-- Read a string on to its closing quote. A reader that is not `strict` only
passes the string by and lets surrogates stand alone. -/
def stringFrom (strict : Bool) :
    Escape → (sofar : List Char) → List Char → Except Malformed (String × List Char)
  | _, _, [] => .error .endInString
  | .none, sofar, character :: rest =>
      if character = '"' then .ok (String.ofList sofar.reverse, rest)
      else if character = '\\' then stringFrom strict .begun sofar rest
      else if character.toNat < 0x20 then .error .controlCharacter
      else stringFrom strict .none (character :: sofar) rest
  | .begun, sofar, character :: rest =>
      if character = 'u' then
        if Text.byteLength (rest.take 4) < 4 then .error .endInString
        else stringFrom strict (.hexadecimal none 3 0) sofar rest
      else
        match simpleEscape? character with
        | some meant => stringFrom strict .none (meant :: sofar) rest
        | none => .error .invalidEscape
  | .hexadecimal high missing value, sofar, character :: rest =>
      match hexDigit? character with
      | none => .error .invalidEscape
      | some digit =>
          let unit := 16 * value + digit
          match missing with
          | missing + 1 => stringFrom strict (.hexadecimal high missing unit) sofar rest
          | 0 =>
              if strict then
                match afterHexadecimal high unit with
                | .error cause => .error cause
                | .ok (state, some finished) => stringFrom strict state (finished :: sofar) rest
                | .ok (state, none) => stringFrom strict state sofar rest
              else stringFrom strict .none sofar rest
  | .pairBackslash high, sofar, character :: rest =>
      if character = '\\' then stringFrom strict (.pairLetter high) sofar rest
      else .error .unfinishedSurrogatePair
  | .pairLetter high, sofar, character :: rest =>
      if character = 'u' then
        if Text.byteLength (rest.take 4) < 4 then .error .endInString
        else stringFrom strict (.hexadecimal (some high) 3 0) sofar rest
      else .error .unfinishedSurrogatePair

/-- Read a string behind its opening quote. -/
def stringBody (strict : Bool) : Reader String := do
  match stringFrom strict .none [] (← get) with
  | .error cause => fail cause
  | .ok (text, rest) =>
      set rest
      return text

/-- Read a number behind its sign. -/
def number (negative : Bool) : Reader Number := do
  match literal (← get) with
  | .error cause => fail cause
  | .ok parts =>
      set parts.rest
      match parts.number negative with
      | .error cause => fail cause
      | .ok value => return value

/-- Read a value that is not an array or object; of those, only the fact that
one begins is reported, by an empty one, and nothing is taken. -/
def head : Reader Json := do
  match ← peek? with
  | none => fail .endInValue
  | some '[' => return .array []
  | some '\x7b' => return .object []
  | some 'n' => advance; letters ['u', 'l', 'l']; return .null
  | some 't' => advance; letters ['r', 'u', 'e']; return .boolean true
  | some 'f' => advance; letters ['a', 'l', 's', 'e']; return .boolean false
  | some '"' => advance; return .string (← stringBody true)
  | some '-' => advance; return .number (← number true)
  | some character =>
      if character.isDigit then return .number (← number false) else fail .expectedValue

/-- Whether an array goes on with another item. Passes the comma before it. -/
def hasItem (first : Bool) : Reader Bool := do
  match ← peek? with
  | none => fail .endInList
  | some ']' => return false
  | some ',' =>
      if first then return true
      advance
      match ← peek? with
      | none => fail .endInValue
      | some ']' => fail .trailingComma
      | some _ => return true
  | some _ => if first then return true else fail .expectedCommaOrBracket

/-- Whether an object goes on with another member. Passes the comma before it. -/
def hasMember (first : Bool) : Reader Bool := do
  match ← peek? with
  | none => fail .endInObject
  | some '\x7d' => return false
  | some ',' =>
      if first then fail .keyNotString
      advance
      match ← peek? with
      | none => fail .endInValue
      | some '"' => return true
      | some '\x7d' => fail .trailingComma
      | some _ => fail .keyNotString
  | some '"' => if first then return true else fail .expectedCommaOrBrace
  | some _ => fail (if first then .keyNotString else .expectedCommaOrBrace)

/-- Pass the colon behind a key. -/
def colon : Reader Unit := do
  match ← peek? with
  | none => fail .endInObject
  | some ':' => advance
  | some _ => fail .expectedColon

/-- Read a member's key and its colon, once its opening quote is in sight. -/
def key : Reader String := do
  advance
  stringBody true

/-- Read items to the closing bracket. Each item takes at least one character,
so the text's length is fuel enough. -/
def items {α : Type} (item : Reader α) : (fuel : Nat) → (first : Bool) → Reader (List α)
  | 0, _ => fail .endInList
  | fuel + 1, first => do
      if ← hasItem first then
        let value ← item
        let others ← items item fuel false
        return value :: others
      else
        advance
        return []

/-- Read members to the closing brace, folding each into a state. -/
def members {σ : Type} (member : σ → String → Reader σ) :
    (fuel : Nat) → (first : Bool) → σ → Reader σ
  | 0, _, _ => fail .endInObject
  | fuel + 1, first, state => do
      if ← hasMember first then
        let name ← key
        let state ← member state name
        members member fuel false state
      else
        advance
        return state

/-- Read the items of an array whose opening bracket is in sight. -/
def array {α : Type} (item : Reader α) : Reader (List α) := do
  advance
  let fuel := (← get).length + 1
  items item fuel true

/-- Read the members of an object whose opening brace is in sight. -/
def object {σ : Type} (member : σ → String → Reader σ) (start : σ) : Reader σ := do
  advance
  let fuel := (← get).length + 1
  members member fuel true start

/-- Read any value, with as many arrays and objects inside one another as
`nesting` allows. -/
def value : (nesting : Nat) → Reader Json
  | 0 => do
      match ← head with
      | .array _ => fail .tooDeep
      | .object _ => fail .tooDeep
      | scalar => return scalar
  | nesting + 1 => do
      match ← head with
      | .array _ => return .array (← array (value nesting))
      | .object _ =>
          let written ← object (fun sofar name => do
            colon
            let item ← value nesting
            return sofar ++ [(name, item)]) []
          return Json.ofMembers written
      | scalar => return scalar

/-! Values that nobody asked for are passed by. This checks their grammar, but
neither the range of numbers nor the pairing of surrogates nor the nesting. -/

/-- Pass the digits, fraction and exponent of a number. -/
def skipNumber : Reader Unit := do
  let text ← get
  let (whole, rest) := text.span Char.isDigit
  if whole.isEmpty || (whole.length ≠ 1 && whole.head? = some '0') then fail .invalidNumber
  let rest ← match rest with
    | '.' :: fraction =>
        if startsWithDigit fraction then pure (fraction.dropWhile Char.isDigit)
        else fail .invalidNumber
    | rest => pure rest
  let exponent? := match rest with
    | 'e' :: exponent => some exponent
    | 'E' :: exponent => some exponent
    | _ => none
  match exponent? with
  | none => set rest
  | some exponent =>
      let digits := match exponent with
        | '+' :: digits => digits
        | '-' :: digits => digits
        | digits => digits
      if startsWithDigit digits then set (digits.dropWhile Char.isDigit)
      else fail .invalidNumber

mutual

/-- Pass a value by. -/
def skipValue : (fuel : Nat) → Reader Unit
  | 0 => fail .endInValue
  | fuel + 1 => do
      match ← peek? with
      | none => fail .endInValue
      | some 'n' => advance; letters ['u', 'l', 'l']
      | some 't' => advance; letters ['r', 'u', 'e']
      | some 'f' => advance; letters ['a', 'l', 's', 'e']
      | some '"' => advance; discard (stringBody false)
      | some '-' => advance; skipNumber
      | some '[' =>
          advance
          match ← peek? with
          | none => fail .endInList
          | some ']' => advance
          | some _ => skipItems fuel
      | some '\x7b' =>
          advance
          match ← peek? with
          | none => fail .endInObject
          | some '\x7d' => advance
          | some _ => skipMembers fuel
      | some character =>
          if character.isDigit then skipNumber else fail .expectedValue

/-- Pass the items of an array by, one at least. -/
def skipItems : (fuel : Nat) → Reader Unit
  | 0 => fail .endInList
  | fuel + 1 => do
      skipValue fuel
      match ← peek? with
      | none => fail .endInList
      | some ']' => advance
      | some ',' => advance; skipItems fuel
      | some _ => fail .expectedCommaOrBracket

/-- Pass the members of an object by, one at least. -/
def skipMembers : (fuel : Nat) → Reader Unit
  | 0 => fail .endInObject
  | fuel + 1 => do
      match ← peek? with
      | none => fail .endInObject
      | some '"' => advance; discard (stringBody false)
      | some _ => fail .keyNotString
      colon
      skipValue fuel
      match ← peek? with
      | none => fail .endInObject
      | some '\x7d' => advance
      | some ',' => advance; skipMembers fuel
      | some _ => fail .expectedCommaOrBrace

end

/-- Pass a value by. Two steps of fuel go for every character at most. -/
def skip : Reader Unit := do
  skipValue (2 * (← get).length + 2)

/-- Run a reader on a whole text: only blanks may be left over. -/
def whole {α : Type} (reader : Reader α) (text : String) : Except DecodeError α := do
  let (value, rest) ← reader.run text.toList
  if rest.all isSpace then return value else throw (.malformed .trailingCharacters)

end Reader

/-- The value that a text holds. -/
def parse (text : String) : Except DecodeError Json :=
  (Reader.value nestingLimit).whole text

end LanguageWorker.Json
