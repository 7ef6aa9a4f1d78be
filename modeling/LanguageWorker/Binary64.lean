namespace LanguageWorker

/-! Finite 64-bit binary floats as exact numbers. Rounding works on quotients of
natural numbers, so that no step of it is hidden in machine arithmetic. -/

/-- A finite float: its value is `mantissa · 2 ^ exponent` with the given sign.
In the form produced here the mantissa has at most 53 bits, the exponent lies
between −1074 and 971, and a mantissa of fewer than 53 bits has exponent
−1074. -/
structure Binary64 where
  negative : Bool
  mantissa : Nat
  exponent : Int
  deriving DecidableEq, Repr, Inhabited

namespace Binary64

def isZero (value : Binary64) : Bool := value.mantissa = 0

/-- A quotient rounded to a whole number; a half goes to the even neighbour. -/
def roundQuotient (numerator denominator : Nat) : Nat :=
  let whole := numerator / denominator
  let twice := 2 * (numerator % denominator)
  if twice < denominator then whole
  else if denominator < twice then whole + 1
  else whole + whole % 2

/-- A quotient divided by a power of two. -/
def overPowerOfTwo (numerator denominator : Nat) : Int → Nat × Nat
  | .ofNat power => (numerator, denominator * Nat.pow 2 power)
  | .negSucc power => (numerator * Nat.pow 2 (power + 1), denominator)

/-- The greatest power of two that is not above a positive quotient. -/
def binaryOrder (numerator denominator : Nat) : Int :=
  let guess : Int := (numerator.log2 : Int) - denominator.log2
  let (scaled, unit) := overPowerOfTwo numerator denominator guess
  if scaled < unit then guess - 1 else guess

/-- The float nearest to a quotient; a tie goes to the even mantissa. There is
none when the quotient rounds to more than the largest float. -/
def ofQuotient? (negative : Bool) (numerator denominator : Nat) : Option Binary64 :=
  if numerator = 0 then some ⟨negative, 0, -1074⟩
  else
    let unit := max (binaryOrder numerator denominator - 52) (-1074)
    let (scaled, divisor) := overPowerOfTwo numerator denominator unit
    let mantissa := roundQuotient scaled divisor
    let (mantissa, exponent) :=
      if mantissa = Nat.pow 2 53 then (Nat.pow 2 52, unit + 1) else (mantissa, unit)
    if exponent ≤ 971 then some ⟨negative, mantissa, exponent⟩ else none

/-- The size of a float as a quotient. -/
def toQuotient (value : Binary64) : Nat × Nat :=
  match value.exponent with
  | .ofNat power => (value.mantissa * Nat.pow 2 power, 1)
  | .negSucc power => (value.mantissa, Nat.pow 2 (power + 1))

/-- The rounded product of the sizes of two floats, with the sign of the first. -/
def times? (value factor : Binary64) : Option Binary64 :=
  let (numerator, denominator) := value.toQuotient
  let (numerator', denominator') := factor.toQuotient
  ofQuotient? value.negative (numerator * numerator') (denominator * denominator')

/-- The rounded quotient of the sizes of two floats, with the sign of the first. -/
def over? (value divisor : Binary64) : Option Binary64 :=
  let (numerator, denominator) := value.toQuotient
  let (numerator', denominator') := divisor.toQuotient
  ofQuotient? value.negative (numerator * denominator') (denominator * numerator')

/-- The float nearest to `digits · 10 ^ exponent`, if that is not too large.
Exponents beyond what any digits can bring back into range are not expanded. -/
def ofDecimal? (negative : Bool) (digits : Nat) (exponent : Int) : Option Binary64 :=
  if digits = 0 then some ⟨negative, 0, -1074⟩
  else if 400 < exponent then none
  else if exponent + digits.log2 < -1200 then some ⟨negative, 0, -1074⟩
  else
    match exponent with
    | .ofNat power => ofQuotient? negative (digits * Nat.pow 10 power) 1
    | .negSucc power => ofQuotient? negative digits (Nat.pow 10 (power + 1))

example : ofDecimal? false 1 (-1) = some ⟨false, 7205759403792794, -56⟩ := by decide +kernel
example : ofDecimal? true 5 (-324) = some ⟨true, 1, -1074⟩ := by decide +kernel
example : (ofDecimal? false 17 307).isSome := by decide +kernel
example : ofDecimal? false 18 307 = none := by decide +kernel

end Binary64

end LanguageWorker
