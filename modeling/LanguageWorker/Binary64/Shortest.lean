import LanguageWorker.Binary64

namespace LanguageWorker.Binary64

/-! The shortest decimal that reads back as a given float.

A decimal reads back as a float when it lies in the interval of numbers that
round to it. For one digit, two digits and so on, the two neighbours of the
float on the grid of decimals with that many digits are tried against the
interval; if a grid has a point in the interval, one of the two neighbours is
such a point, so the first hit has the fewest digits. Seventeen digits always
suffice. -/

/-- A positive decimal, `digits · 10 ^ exponent`. -/
structure Decimal where
  digits : Nat
  exponent : Int
  deriving DecidableEq, Repr

/-- The interval of a positive float, in quarters of its last binary place:
lower end, the float itself, upper end, and whether the ends belong to it. -/
structure Interval where
  low : Nat
  middle : Nat
  high : Nat
  closed : Bool

/-- The ends are half a place away, but below a power of two the places are
half as wide. An end belongs to the interval of the even mantissa. -/
def interval (value : Binary64) : Interval where
  low :=
    if value.mantissa = Nat.pow 2 52 && value.exponent != -1074 then 4 * value.mantissa - 1
    else 4 * value.mantissa - 2
  middle := 4 * value.mantissa
  high := 4 * value.mantissa + 2
  closed := value.mantissa % 2 = 0

/-- The factors that bring quarters of places and multiples of a power of ten
to one scale: a place count times the first compares with a decimal's digits
times the second. -/
def commonScale (value : Binary64) (power : Int) : Nat × Nat :=
  let (places, unit) : Nat × Nat :=
    match value.exponent - 2 with
    | .ofNat exponent => (Nat.pow 2 exponent, 1)
    | .negSucc exponent => (1, Nat.pow 2 (exponent + 1))
  match power with
  | .ofNat power => (places, unit * Nat.pow 10 power)
  | .negSucc power => (places * Nat.pow 10 (power + 1), unit)

/-- Whether a scaled decimal lies in the scaled interval. -/
def Interval.holds (bounds : Interval) (scale candidate : Nat) : Bool :=
  if bounds.closed then bounds.low * scale ≤ candidate && candidate ≤ bounds.high * scale
  else bounds.low * scale < candidate && candidate < bounds.high * scale

/-- The better neighbour of a float on the grid of multiples of a power of ten,
if one of its two neighbours there reads back. -/
def onGrid? (value : Binary64) (power : Int) : Option Decimal :=
  let bounds := value.interval
  let (places, unit) := commonScale value power
  let exact := bounds.middle * places
  let below := exact / unit
  let above := below + 1
  let lower := bounds.holds places (below * unit) && below != 0
  let upper := bounds.holds places (above * unit)
  let fromBelow := exact - below * unit
  let fromAbove := above * unit - exact
  if lower && (!upper || fromBelow < fromAbove || (fromBelow = fromAbove && below % 2 = 0)) then
    some ⟨below, power⟩
  else if upper then some ⟨above, power⟩
  else none

/-- The power of ten of the first digit of a positive float. -/
def decimalOrder (value : Binary64) : Int :=
  let (numerator, denominator) := value.toQuotient
  if denominator ≤ numerator then
    ((Nat.toDigits 10 (numerator / denominator)).length : Int) - 1
  else
    -((Nat.toDigits 10 ((denominator - 1) / numerator)).length : Int)

/-- Try grids with more and more digits. -/
def searchGrids (value : Binary64) (order : Int) : (more : Nat) → (places : Nat) → Decimal
  | 0, places => ⟨(onGrid? value (order - places)).elim 0 Decimal.digits, order - places⟩
  | more + 1, places =>
      match onGrid? value (order - places) with
      | some decimal => decimal
      | none => searchGrids value order more (places + 1)

/-- Drop the zeros at the end of the digits. At most `fuel` of them go. -/
def Decimal.trimmed (decimal : Decimal) : (fuel : Nat) → Decimal
  | 0 => decimal
  | fuel + 1 =>
      if decimal.digits % 10 = 0 then
        Decimal.trimmed ⟨decimal.digits / 10, decimal.exponent + 1⟩ fuel
      else decimal

/-- The shortest decimal that reads back as a positive float, and of those the
nearest to it. -/
def shortest (value : Binary64) : Decimal :=
  (searchGrids value value.decimalOrder 16 0).trimmed 17

/-- The text of a float: its shortest digits with a point or an exponent, and
the exponent form when the first digit stands below 10⁻⁵ or at 10¹⁶ or above. -/
def toText (value : Binary64) : String :=
  let sign := if value.negative then ['-'] else []
  if value.isZero then String.ofList (sign ++ ['0', '.', '0'])
  else
    let decimal := value.shortest
    let digits := Nat.toDigits 10 decimal.digits
    let order := decimal.exponent + digits.length - 1
    let body :=
      if order < -5 || 16 ≤ order then
        let fraction := if digits.length = 1 then [] else '.' :: digits.drop 1
        let mark := if order < 0 then '-' else '+'
        digits.take 1 ++ fraction ++ ['e', mark] ++ Nat.toDigits 10 order.natAbs
      else if order < 0 then
        ['0', '.'] ++ List.replicate (order.natAbs - 1) '0' ++ digits
      else if digits.length ≤ order.natAbs + 1 then
        digits ++ List.replicate (order.natAbs + 1 - digits.length) '0' ++ ['.', '0']
      else
        digits.take (order.natAbs + 1) ++ ['.'] ++ digits.drop (order.natAbs + 1)
    String.ofList (sign ++ body)

end LanguageWorker.Binary64
