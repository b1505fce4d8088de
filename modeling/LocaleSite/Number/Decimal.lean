import LocaleSite.Number.Binary64

/-!
# Decimal text of a double

Two ways to write the shortest digits of a `Binary64`: positionally, whatever the size, and in
the mixed form that turns to an exponent for very large and very small numbers. Both always show
that the number is not an integer, by a point or by an exponent.
-/

namespace LocaleSite

def digitChars (n : Nat) : List Char := Nat.toDigits 10 n

def intChars : Int → List Char
  | .ofNat n => digitChars n
  | .negSucc n => '-' :: digitChars (n + 1)

namespace ScaledDigits

/-- All digits around a decimal point, at least one on either side. -/
def positional (decimal : ScaledDigits) : List Char :=
  let digits := digitChars decimal.digits
  if 0 ≤ decimal.scale then digits ++ List.replicate decimal.scale.toNat '0' ++ ['.', '0']
  else
    let places := (-decimal.scale).toNat
    if places < digits.length then
      digits.take (digits.length - places) ++ '.' :: digits.drop (digits.length - places)
    else '0' :: '.' :: List.replicate (places - digits.length) '0' ++ digits

/-- One digit, the others after a point, and the power of ten. -/
def scientific (decimal : ScaledDigits) : List Char :=
  let digits := digitChars decimal.digits
  let power := decimal.scale + digits.length - 1
  match digits with
  | [] => []
  | [digit] => digit :: 'e' :: intChars power
  | first :: others => first :: '.' :: others ++ 'e' :: intChars power

/-- Positional from `10 ^ -5` up to `10 ^ 16`, scientific outside. -/
def mixed (decimal : ScaledDigits) : List Char :=
  let magnitude := decimal.scale + (digitChars decimal.digits).length
  if decimal.digits = 0 then decimal.positional
  else if -5 < magnitude && magnitude ≤ 16 then decimal.positional
  else decimal.scientific

end ScaledDigits

namespace Binary64

private def signed (x : Binary64) (magnitude : List Char) : List Char :=
  if x.negative then '-' :: magnitude else magnitude

/-- The shortest digits, written positionally. -/
def positionalChars (x : Binary64) : List Char := x.signed x.shortest.positional

/-- The shortest digits, written in the mixed form. -/
def mixedChars (x : Binary64) : List Char := x.signed x.shortest.mixed

end Binary64

end LocaleSite
