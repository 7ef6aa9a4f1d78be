namespace LanguageWorker.Toml

/-! Dates and times. A moment is a date, a time of day, or both, and then
perhaps with an offset from universal time. Seconds may be left out, and the
standard text has them all the same. -/

/-- The number written by exactly `count` digits at the front. -/
def fixedDigits? (count : Nat) (text : List Char) : Option (Nat × List Char) :=
  let digits := text.take count
  if digits.length = count && digits.all Char.isDigit then
    some (digits.foldl (fun sofar digit => 10 * sofar + (digit.toNat - '0'.toNat)) 0,
      text.drop count)
  else none

/-- Pass one of the given characters. -/
def oneOf? (allowed : List Char) : List Char → Option (List Char)
  | character :: rest => if allowed.contains character then some rest else none
  | [] => none

def isLeapYear (year : Nat) : Bool :=
  year % 4 = 0 && (year % 100 ≠ 0 || year % 400 = 0)

def daysInMonth (year month : Nat) : Nat :=
  if month = 2 then (if isLeapYear year then 29 else 28)
  else if [4, 6, 9, 11].contains month then 30
  else 31

/-- A number in at least `width` digits. -/
def padded (width number : Nat) : List Char :=
  let digits := Nat.toDigits 10 number
  List.replicate (width - digits.length) '0' ++ digits

/-- Read a calendar date; the answer holds its standard text. -/
def date? (text : List Char) : Option (List Char × List Char) := do
  let (year, text) ← fixedDigits? 4 text
  let text ← oneOf? ['-'] text
  let (month, text) ← fixedDigits? 2 text
  let text ← oneOf? ['-'] text
  let (day, text) ← fixedDigits? 2 text
  guard (1 ≤ month && month ≤ 12)
  guard (1 ≤ day && day ≤ daysInMonth year month)
  return (padded 4 year ++ ['-'] ++ padded 2 month ++ ['-'] ++ padded 2 day, text)

/-- The fraction of a second behind its point, to billionths and without zeros at
the end. Where nothing is left, there is no point either. -/
def fraction (digits : List Char) : List Char :=
  match ((digits.take 9).reverse.dropWhile (· = '0')).reverse with
  | [] => []
  | kept => '.' :: kept

/-- Read the seconds of a time, with their fraction. Seconds that are left out
are zero. -/
def seconds? (text : List Char) : Option (List Char × List Char) :=
  match text with
  | ':' :: text => do
      let (second, text) ← fixedDigits? 2 text
      guard (second ≤ 60)
      match text with
      | '.' :: text =>
          let digits := text.takeWhile Char.isDigit
          guard (!digits.isEmpty)
          return (':' :: padded 2 second ++ fraction digits, text.dropWhile Char.isDigit)
      | text => return (':' :: padded 2 second, text)
  | text => some (':' :: padded 2 0, text)

/-- Read a time of day; the answer holds its standard text. -/
def time? (text : List Char) : Option (List Char × List Char) := do
  let (hour, text) ← fixedDigits? 2 text
  let text ← oneOf? [':'] text
  let (minute, text) ← fixedDigits? 2 text
  let (seconds, text) ← seconds? text
  guard (hour ≤ 23 && minute ≤ 59)
  return (padded 2 hour ++ [':'] ++ padded 2 minute ++ seconds, text)

/-- Read what may follow a date and time: nothing, `Z` or an offset. An offset
of nothing is written with a plus sign. -/
def offset? (text : List Char) : Option (List Char) :=
  match text with
  | [] => some []
  | sign :: text =>
      if ['Z', 'z'].contains sign then
        if text.isEmpty then some ['Z'] else none
      else if ['+', '-'].contains sign then do
        let (hour, text) ← fixedDigits? 2 text
        let text ← oneOf? [':'] text
        let (minute, text) ← fixedDigits? 2 text
        guard (text.isEmpty && hour ≤ 23 && minute ≤ 59)
        let sign := if hour = 0 && minute = 0 then '+' else sign
        return sign :: padded 2 hour ++ [':'] ++ padded 2 minute
      else none

/-- The standard text of a moment, if the token is one. Date and time are
parted by a `T`. -/
def moment? (token : List Char) : Option (List Char) :=
  match date? token with
  | some (date, []) => some date
  | some (date, separator :: text) => do
      guard (['T', 't', ' '].contains separator)
      let (time, text) ← time? text
      let offset ← offset? text
      return date ++ ['T'] ++ time ++ offset
  | none => do
      let (time, text) ← time? token
      guard text.isEmpty
      return time

example : (moment? "1979-05-27 07:32:00z".toList).map String.ofList =
    some "1979-05-27T07:32:00Z" := by decide
example : (moment? "07:32".toList).map String.ofList = some "07:32:00" := by decide
example : (moment? "07:32:09.1000".toList).map String.ofList = some "07:32:09.1" := by decide
example : (moment? "07:32:09.000".toList).map String.ofList = some "07:32:09" := by decide
example : moment? "2023-02-29".toList = none := by decide

end LanguageWorker.Toml
