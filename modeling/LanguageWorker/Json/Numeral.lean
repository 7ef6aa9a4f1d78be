import LanguageWorker.Decode.Error

namespace LanguageWorker.Json

/-! Number literals. A literal without point and exponent that fits in 64 bits
is a whole number. Any other literal is a float made in two roundings: the
leading digits that fit in a 64-bit word are rounded, and then multiplied or
divided by a rounded power of ten. -/

/-- A power of ten, rounded to a float, up to the largest one. -/
def powerOfTen? (power : Nat) : Option Binary64 :=
  Binary64.ofQuotient? false (Nat.pow 10 power) 1

/-- A float times a power of ten. Powers too small to be floats are divided out
in steps. -/
def scaledIn? : (steps : Nat) → Binary64 → Int → Option Binary64
  | 0, value, _ => some ⟨value.negative, 0, -1074⟩
  | steps + 1, value, exponent =>
      if exponent.natAbs ≤ 308 then do
        let power ← powerOfTen? exponent.natAbs
        if 0 ≤ exponent then value.times? power else value.over? power
      else if value.isZero then some value
      else if 0 ≤ exponent then none
      else do
        let power ← powerOfTen? 308
        let smaller ← value.over? power
        scaledIn? steps smaller (exponent + 308)

/-- A float times a power of ten. Two steps leave nothing of a number of at
most twenty digits, so four are enough. -/
def scaled? (value : Binary64) (exponent : Int) : Option Binary64 :=
  scaledIn? 4 value exponent

/-- A number literal taken apart, with what follows it. -/
structure Literal where
  significand : Nat
  exponent : Int
  isWhole : Bool
  rest : List Char

/-- Take in digits as long as the number stays below 2⁶⁴. The count says how
many were taken. -/
def takeWord (sofar count : Nat) : List Char → Nat × Nat × List Char
  | [] => (sofar, count, [])
  | character :: rest =>
      if character.isDigit then
        let longer := 10 * sofar + (character.toNat - '0'.toNat)
        if longer < Nat.pow 2 64 then takeWord longer (count + 1) rest
        else (sofar, count, character :: rest)
      else (sofar, count, character :: rest)

def startsWithDigit : List Char → Bool
  | character :: _ => character.isDigit
  | [] => false

/-- The value of a run of digits. -/
def digitsValue (digits : List Char) : Nat :=
  digits.foldl (fun sofar digit => 10 * sofar + (digit.toNat - '0'.toNat)) 0

/-- Read on behind the `e` of an exponent. -/
def exponentPart (significand : Nat) (exponent : Int) (text : List Char) :
    Except Malformed Literal :=
  let (negative, text) : Bool × List Char :=
    match text with
    | '+' :: rest => (false, rest)
    | '-' :: rest => (true, rest)
    | rest => (false, rest)
  match text with
  | [] => .error .endInValue
  | character :: _ =>
      if character.isDigit then
        let size : Int := digitsValue (text.takeWhile Char.isDigit)
        .ok {
          significand
          exponent := if negative then exponent - size else exponent + size
          isWhole := false
          rest := text.dropWhile Char.isDigit }
      else .error .invalidNumber

/-- Finish a literal with the exponent part, if there is one. -/
def withExponent (significand : Nat) (exponent : Int) (isWhole : Bool) (text : List Char) :
    Except Malformed Literal :=
  match text with
  | 'e' :: rest => exponentPart significand exponent rest
  | 'E' :: rest => exponentPart significand exponent rest
  | rest => .ok { significand, exponent, isWhole, rest }

/-- Read on behind the decimal point. Digits that no longer fit are dropped. -/
def fractionPart (significand : Nat) (exponent : Int) (text : List Char) :
    Except Malformed Literal :=
  let (longer, count, rest) := takeWord significand 0 text
  if startsWithDigit rest then
    withExponent longer (exponent - count) false (rest.dropWhile Char.isDigit)
  else if count = 0 then
    .error (if rest.isEmpty then .endInValue else .invalidNumber)
  else withExponent longer (exponent - count) false rest

/-- Read a literal without its sign. A zero stands alone before the point. -/
def literal (text : List Char) : Except Malformed Literal :=
  match text with
  | [] => .error .endInValue
  | first :: others =>
      if !first.isDigit then .error .invalidNumber
      else if first = '0' && startsWithDigit others then .error .invalidNumber
      else
        let (significand, _, rest) := takeWord 0 0 text
        let surplus := rest.takeWhile Char.isDigit
        let exponent : Int := surplus.length
        match rest.dropWhile Char.isDigit with
        | '.' :: fraction => fractionPart significand exponent fraction
        | rest => withExponent significand exponent surplus.isEmpty rest

/-- The number a literal stands for. A negative whole number is at least −2⁶³,
and minus zero is a float. -/
def Literal.number (parts : Literal) (negative : Bool) : Except Malformed Number :=
  if parts.isWhole && !negative then .ok (.integer parts.significand)
  else if parts.isWhole && parts.significand ≠ 0 && parts.significand ≤ Nat.pow 2 63 then
    .ok (.integer (-parts.significand))
  else
    match Binary64.ofQuotient? negative parts.significand 1 >>= (scaled? · parts.exponent) with
    | some value => .ok (.float value)
    | none => .error .numberOutOfRange

end LanguageWorker.Json
