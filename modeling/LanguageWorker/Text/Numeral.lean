namespace LanguageWorker.Text

/-! Decimal numerals of 32-bit words. -/

/-- The digit a character stands for, when it is an ASCII digit. -/
def digit? (character : Char) : Option Nat :=
  if character.isDigit then some (character.toNat - '0'.toNat) else none

/-- The number that digits continue, when every character is a digit. -/
def digitsFrom? (sofar : Nat) : List Char → Option Nat
  | [] => some sofar
  | character :: rest => do
      let digit ← digit? character
      digitsFrom? (10 * sofar + digit) rest

/-- The number written by a non-empty run of ASCII digits. -/
def digits? : List Char → Option Nat
  | [] => none
  | text => digitsFrom? 0 text

/-- The word written by an optional plus sign and at least one digit, leading
zeros included, when it is small enough to be one. -/
def word? (text : List Char) : Option UInt32 := do
  let number ← match text with
    | '+' :: digits => digits? digits
    | digits => digits? digits
  if number < UInt32.size then some (UInt32.ofNat number) else none

example : word? "+007".toList = some 7 := by decide
example : word? "4294967296".toList = none := by decide
example : word? "+".toList = none := by decide
example : word? "++1".toList = none := by decide

end LanguageWorker.Text
