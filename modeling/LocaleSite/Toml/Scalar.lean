import LocaleSite.Date
import LocaleSite.Value

/-!
# Bare values of TOML

Truth values, numbers, dates and times are written without quotes. `Toml.scalar?` tells which of
them some characters write. Digits may have single underscores between them, and a decimal number
has no zero before other digits.

A hexadecimal, octal or binary number may come without digits; it then has no value, as has a
number above all doubles.
-/

namespace LocaleSite.Toml

/-- The value of a digit in a base up to sixteen. -/
def digitValue? (base : Nat) (c : Char) : Option Nat :=
  let value :=
    if '0' ≤ c ∧ c ≤ '9' then some (c.toNat - '0'.toNat)
    else if 'a' ≤ c ∧ c ≤ 'f' then some (c.toNat - 'a'.toNat + 10)
    else if 'A' ≤ c ∧ c ≤ 'F' then some (c.toNat - 'A'.toNat + 10)
    else none
  value.filter (· < base)

/-- Whether a character is a digit in a base. -/
def isDigit (base : Nat) (c : Char) : Bool := (digitValue? base c).isSome

/-- Whether characters are digits with single underscores between them, at least one digit. -/
def areDigits (base : Nat) : List Char → Bool
  | [] => false
  | [c] => isDigit base c
  | c :: '_' :: rest => isDigit base c && areDigits base rest
  | c :: rest => isDigit base c && areDigits base rest

def digitsValue (base : Nat) (digits : List Char) : Nat :=
  (digits.filterMap (digitValue? base)).foldl (fun value digit => value * base + digit) 0

/-- The digits and underscores at the front, and the characters after them. -/
def spanDigits (chars : List Char) : List Char × List Char :=
  chars.span fun c => c.isDigit || c == '_'

/-- Whether characters are the digits of a decimal number, without a zero before others. -/
def isWhole (digits : List Char) : Bool :=
  areDigits 10 digits && (digits.length = 1 || digits.head? != some '0')

/-- A number of another base after its mark, `0x` for instance. -/
def radixNumber? (base : Nat) (digits : List Char) : Option Number :=
  if digits.isEmpty then some .unreadable
  else if areDigits base digits then some (.int (digitsValue base digits))
  else none

/-- The sign at the front, whether it is a minus, and the characters after it. -/
def splitSign : List Char → Bool × List Char
  | '-' :: rest => (true, rest)
  | '+' :: rest => (false, rest)
  | rest => (false, rest)

/-- The digits of a fraction: none without a point, and no reading without digits after one. -/
def splitFraction : List Char → Option (List Char × List Char)
  | '.' :: rest =>
      let (digits, rest) := spanDigits rest
      if areDigits 10 digits then some (digits, rest) else none
  | rest => some ([], rest)

/-- The power of ten of an exponent, which takes all remaining characters. -/
def exponent? : List Char → Option Int
  | [] => some 0
  | e :: rest =>
      if e = 'e' || e = 'E' then
        let (negative, digits) := splitSign rest
        if areDigits 10 digits then
          let power : Int := digitsValue 10 digits
          some (if negative then -power else power)
        else none
      else none

/-- A decimal number after its sign. -/
def decimalNumber? (negative : Bool) (chars : List Char) : Option Number := do
  let (whole, rest) := spanDigits chars
  guard (isWhole whole)
  if rest.isEmpty then
    let value : Int := digitsValue 10 whole
    return .int (if negative then -value else value)
  else
    let (fraction, rest) ← splitFraction rest
    let power ← exponent? rest
    let places := (fraction.filter (· != '_')).length
    return ((Binary64.ofDecimal negative
      ⟨digitsValue 10 (whole ++ fraction), power - places⟩).map Number.float).getD .unreadable

/-- A number. -/
def number? (chars : List Char) : Option Number :=
  match chars with
  | '0' :: 'x' :: digits => radixNumber? 16 digits
  | '0' :: 'o' :: digits => radixNumber? 8 digits
  | '0' :: 'b' :: digits => radixNumber? 2 digits
  | chars =>
      let (negative, magnitude) := splitSign chars
      if magnitude = ['i', 'n', 'f'] then some (.infinity negative)
      else if magnitude = ['n', 'a', 'n'] then some .nan
      else decimalNumber? negative magnitude

/-- The number of two digits at the front, and the characters after it. -/
def twoDigits? : List Char → Option (Nat × List Char)
  | a :: b :: rest =>
      if a.isDigit && b.isDigit then some (digitsValue 10 [a, b], rest) else none
  | _ => none

/-- The characters after a date at the front. -/
def afterDate? (chars : List Char) : Option (List Char) := do
  let (century, rest) ← twoDigits? chars
  let (yearOfCentury, rest) ← twoDigits? rest
  let '-' :: rest := rest | none
  let (month, rest) ← twoDigits? rest
  let '-' :: rest := rest | none
  let (day, rest) ← twoDigits? rest
  guard (isDate (century * 100 + yearOfCentury : Nat) month day)
  return rest

/-- The characters after the fraction of a second, if there is one. -/
def afterFraction? : List Char → Option (List Char)
  | '.' :: rest =>
      let (digits, rest) := rest.span Char.isDigit
      if digits.isEmpty then none else some rest
  | rest => some rest

/-- The characters after a time at the front; its seconds may be left out. -/
def afterTime? (chars : List Char) : Option (List Char) := do
  let (hour, rest) ← twoDigits? chars
  let ':' :: rest := rest | none
  let (minute, rest) ← twoDigits? rest
  guard (hour ≤ 23 && minute ≤ 59)
  match rest with
  | ':' :: rest =>
      let (second, rest) ← twoDigits? rest
      guard (second ≤ 60)
      afterFraction? rest
  | rest => return rest

/-- Whether characters are an offset from universal time. -/
def isOffset : List Char → Bool
  | [] => true
  | ['Z'] => true
  | ['z'] => true
  | sign :: rest =>
      (sign == '+' || sign == '-') &&
        match twoDigits? rest with
        | some (hours, ':' :: rest) =>
            match twoDigits? rest with
            | some (minutes, []) => hours * 60 + minutes ≤ 24 * 60
            | _ => false
        | _ => false

/-- Whether characters are a date, a time, or a date with a time and perhaps an offset. -/
def isMoment (chars : List Char) : Bool :=
  match afterDate? chars with
  | some [] => true
  | some (mark :: rest) =>
      (mark == 'T' || mark == 't' || mark == ' ') &&
        match afterTime? rest with
        | some rest => isOffset rest
        | none => false
  | none => afterTime? chars == some []

/-- The bare value that characters write. -/
def scalar? (chars : List Char) : Option Value :=
  if chars = ['t', 'r', 'u', 'e'] then some (.bool true)
  else if chars = ['f', 'a', 'l', 's', 'e'] then some (.bool false)
  else if isMoment chars then some (.moment (String.ofList chars))
  else (number? chars).map .number

end LocaleSite.Toml
