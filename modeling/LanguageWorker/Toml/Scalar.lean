import LanguageWorker.Toml
import LanguageWorker.Toml.Moment

namespace LanguageWorker.Toml

/-! Values written without quotes: booleans, numbers, dates and times. -/

/-- Digits with single underscores between them, without the underscores. -/
def grouped? (isDigit : Char → Bool) : List Char → Option (List Char)
  | [] => none
  | [digit] => if isDigit digit then some [digit] else none
  | digit :: '_' :: rest => do
      guard (isDigit digit)
      return digit :: (← grouped? isDigit rest)
  | digit :: rest => do
      guard (isDigit digit)
      return digit :: (← grouped? isDigit rest)

def isHexDigit (character : Char) : Bool :=
  character.isDigit || ('a' ≤ character && character ≤ 'f') ||
    ('A' ≤ character && character ≤ 'F')

/-- The digit a character stands for, in any base up to sixteen. -/
def digitValue (character : Char) : Nat :=
  if character.isDigit then character.toNat - '0'.toNat
  else character.toLower.toNat - 'a'.toNat + 10

def valueInBase (base : Nat) (digits : List Char) : Nat :=
  digits.foldl (fun sofar digit => base * sofar + digitValue digit) 0

/-- Decimal digits of the part before the point: no zero in front of others. -/
def wholePart? (text : List Char) : Option (List Char) := do
  let digits ← grouped? Char.isDigit text
  if digits.length = 1 || digits.head? ≠ some '0' then some digits else none

def isGroupCharacter (character : Char) : Bool :=
  character.isDigit || character = '_'

/-- The exponent behind an `e`. -/
def exponent? (text : List Char) : Option Int :=
  match text with
  | '+' :: digits => (grouped? Char.isDigit digits).map fun digits => (valueInBase 10 digits : Int)
  | '-' :: digits =>
      (grouped? Char.isDigit digits).map fun digits => -(valueInBase 10 digits : Int)
  | digits => (grouped? Char.isDigit digits).map fun digits => (valueInBase 10 digits : Int)

/-- A decimal float taken apart: all its digits, and the power of ten of the
last one. -/
def decimalFloat? (text : List Char) : Option (Nat × Int) := do
  let whole ← wholePart? (text.takeWhile isGroupCharacter)
  match text.dropWhile isGroupCharacter with
  | '.' :: rest =>
      let fraction ← grouped? Char.isDigit (rest.takeWhile isGroupCharacter)
      let digits := valueInBase 10 (whole ++ fraction)
      match rest.dropWhile isGroupCharacter with
      | [] => return (digits, -(fraction.length : Int))
      | mark :: rest =>
          guard (mark = 'e' || mark = 'E')
          return (digits, (← exponent? rest) - fraction.length)
  | mark :: rest =>
      guard (mark = 'e' || mark = 'E')
      return (valueInBase 10 whole, ← exponent? rest)
  | [] => none

/-- The whole number written in a base other than ten. -/
def radixInteger? : List Char → Option Nat
  | '0' :: 'x' :: digits => (grouped? isHexDigit digits).map (valueInBase 16)
  | '0' :: 'o' :: digits =>
      (grouped? (fun digit => '0' ≤ digit && digit ≤ '7') digits).map (valueInBase 8)
  | '0' :: 'b' :: digits =>
      (grouped? (fun digit => digit = '0' || digit = '1') digits).map (valueInBase 2)
  | _ => none

/-- A whole number, if some machine word could hold it. -/
def ofInteger (token : String) (value : Int) : Toml :=
  if -(Nat.pow 2 127) ≤ value && value < Nat.pow 2 128 then .integer value else .tooLarge token

/-- A number behind its sign. -/
def unsignedNumber (token : String) (negative : Bool) (text : List Char) :
    Except Malformed Toml :=
  if text = ['i', 'n', 'f'] || text = ['n', 'a', 'n'] then .ok (.float none)
  else
    match wholePart? text with
    | some digits =>
        let size : Int := valueInBase 10 digits
        .ok (ofInteger token (if negative then -size else size))
    | none =>
        match decimalFloat? text with
        | some (digits, exponent) =>
            match Binary64.ofDecimal? negative digits exponent with
            | some value => .ok (.float (some value))
            | none => .ok (.tooLarge token)
        | none => .error (.invalidScalar token)

/-- The key under which the text of a date or time is handed on. -/
def momentKey : String := "$__toml_private_datetime"

/-- The value that an unquoted token stands for. -/
def ofToken (token : List Char) : Except Malformed Toml :=
  let name := String.ofList token
  match token with
  | ['t', 'r', 'u', 'e'] => .ok (.boolean true)
  | ['f', 'a', 'l', 's', 'e'] => .ok (.boolean false)
  | '+' :: text => unsignedNumber name false text
  | '-' :: text => unsignedNumber name true text
  | text =>
      match moment? text with
      | some moment => .ok (.table [(momentKey, .string (String.ofList moment))])
      | none =>
          match radixInteger? text with
          | some value => .ok (ofInteger name value)
          | none => unsignedNumber name false text

end LanguageWorker.Toml
