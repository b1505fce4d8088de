import LocaleSite.Date
import LocaleSite.Text.Blank

/-!
# Reading dates

A date is written as year, month and day with `-` between them. Blanks may stand before each
number, before each `-` and at the end. Month and day have one or two digits, a year up to four;
a year with a sign may have more.
-/

namespace LocaleSite

/-- Why a text is not a date. -/
inductive DateError where
  | invalidCharacters
  | outOfRange
  | tooShort
  | trailing
deriving DecidableEq, Repr

/-- The text shown for a text that is not a date. -/
def DateError.message : DateError → String
  | .invalidCharacters => "input contains invalid characters"
  | .outOfRange => "input is out of range"
  | .tooShort => "premature end of input"
  | .trailing => "trailing input"

namespace Date

/-- The characters after the blanks at the front. -/
def skipBlanks (chars : List Char) : List Char := chars.dropWhile Text.isBlank

def digitsValue (digits : List Char) : Nat :=
  digits.foldl (fun value digit => value * 10 + (digit.toNat - '0'.toNat)) 0

/-- A number of at least one digit, and of not more than a width if there is one. -/
def readNumber (width : Option Nat) (chars : List Char) : Except DateError (Nat × List Char) :=
  let digits := (match width with
    | some width => chars.take width
    | none => chars).takeWhile Char.isDigit
  if chars.isEmpty then .error .tooShort
  else if digits.isEmpty then .error .invalidCharacters
  else .ok (digitsValue digits, chars.drop digits.length)

/-- A year: an integer of 32 bits. -/
def readYear (chars : List Char) : Except DateError (Int × List Char) := do
  let (year, rest) ← show Except DateError (Int × List Char) from
    match skipBlanks chars with
    | '-' :: rest => (readNumber none rest).map fun (year, rest) => (-(year : Int), rest)
    | '+' :: rest => (readNumber none rest).map fun (year, rest) => ((year : Int), rest)
    | rest => (readNumber (some 4) rest).map fun (year, rest) => ((year : Int), rest)
  if -0x80000000 ≤ year && year < 0x80000000 then return (year, rest) else throw .outOfRange

/-- A number of one or two digits from one up to a bound. -/
def readPart (bound : Nat) (chars : List Char) : Except DateError (Nat × List Char) := do
  let (part, rest) ← readNumber (some 2) (skipBlanks chars)
  if 1 ≤ part && part ≤ bound then return (part, rest) else throw .outOfRange

def readDash (chars : List Char) : Except DateError (List Char) :=
  match skipBlanks chars with
  | [] => .error .tooShort
  | '-' :: rest => .ok rest
  | _ => .error .invalidCharacters

def ofText (text : String) : Except DateError Date := do
  let (year, rest) ← readYear text.toList
  let rest ← readDash rest
  let (month, rest) ← readPart 12 rest
  let rest ← readDash rest
  let (day, rest) ← readPart 31 rest
  if !(skipBlanks rest).isEmpty then throw .trailing
  match of? year month day with
  | some date => return date
  | none => throw .outOfRange

end Date

end LocaleSite
