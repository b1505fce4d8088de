/-!
# Calendar dates

A `Date` is a day of the proleptic Gregorian calendar with a year of up to six digits.
`Date.toText` writes year, month and day with at least four, two and two digits; a year above 9999
has a plus sign.
-/

namespace LocaleSite

def isLeapYear (year : Int) : Bool :=
  year % 4 = 0 && (year % 100 ≠ 0 || year % 400 = 0)

def daysInMonth (year : Int) (month : Nat) : Nat :=
  if month = 2 then if isLeapYear year then 29 else 28
  else if month = 4 || month = 6 || month = 9 || month = 11 then 30
  else 31

/-- Whether three numbers are a date within the supported years. -/
def isDate (year : Int) (month day : Nat) : Bool :=
  -262143 ≤ year && year ≤ 262142 && 1 ≤ month && month ≤ 12 &&
    1 ≤ day && day ≤ daysInMonth year month

/-- A day of the calendar. -/
structure Date where
  year : Int
  month : Nat
  day : Nat
  valid : isDate year month day = true
deriving DecidableEq

namespace Date

/-- The date of three numbers, if they are one. -/
def of? (year : Int) (month day : Nat) : Option Date :=
  if valid : isDate year month day = true then some ⟨year, month, day, valid⟩ else none

/-- The first day of 1970. -/
def epoch : Date := ⟨1970, 1, 1, by decide⟩

/-- The date a number of days after the epoch; days that no date is for give the epoch. Years are
counted from March on, so that a leap day is the last of its year, in eras of 400 years. -/
def ofEpochDay (days : Int) : Date :=
  let shifted := days + 719468
  let era := shifted / 146097
  let dayOfEra := (shifted % 146097).toNat
  let yearOfEra := (dayOfEra - dayOfEra / 1460 + dayOfEra / 36524 - dayOfEra / 146096) / 365
  let dayOfYear := dayOfEra - (365 * yearOfEra + yearOfEra / 4 - yearOfEra / 100)
  let monthFromMarch := (5 * dayOfYear + 2) / 153
  let day := dayOfYear - (153 * monthFromMarch + 2) / 5 + 1
  let month := if monthFromMarch < 10 then monthFromMarch + 3 else monthFromMarch - 9
  let year := yearOfEra + era * 400 + if month ≤ 2 then 1 else 0
  (of? year month day).getD epoch

/-- Decimal digits with zeros in front up to a width. -/
def paddedChars (width n : Nat) : List Char :=
  let digits := Nat.toDigits 10 n
  List.replicate (width - digits.length) '0' ++ digits

/-- The year with its sign, which only years outside 0 to 9999 have. -/
def yearChars (year : Int) : List Char :=
  let digits := paddedChars 4 year.natAbs
  if year < 0 then '-' :: digits else if 9999 < year then '+' :: digits else digits

def toText (date : Date) : String :=
  String.ofList (yearChars date.year ++ '-' :: paddedChars 2 date.month ++
    '-' :: paddedChars 2 date.day)

end Date

end LocaleSite
