import LocaleSite.Value.Json

/-!
# Reading JSON text

`Json.read?` accepts one JSON value with blanks around it. Of two entries of an object with one
key the later counts. An integer beyond 64 bits, like any number with a fraction or an exponent,
is read as the nearest double.

Each reader takes the remaining characters and returns what it read with the characters after it.
Values recurse on a fuel of one more than the length of the text, which nesting cannot exceed.
-/

namespace LocaleSite.Json

/-- The remaining characters after the blanks at the front. -/
def skipBlanks : List Char → List Char
  | c :: rest => if c = ' ' || c = '\n' || c = '\t' || c = '\r' then skipBlanks rest else c :: rest
  | [] => []

def hexValue? (c : Char) : Option Nat :=
  if '0' ≤ c ∧ c ≤ '9' then some (c.toNat - '0'.toNat)
  else if 'a' ≤ c ∧ c ≤ 'f' then some (c.toNat - 'a'.toNat + 10)
  else if 'A' ≤ c ∧ c ≤ 'F' then some (c.toNat - 'A'.toNat + 10)
  else none

def fourHex? (a b c d : Char) : Option Nat := do
  let a ← hexValue? a
  let b ← hexValue? b
  let c ← hexValue? c
  let d ← hexValue? d
  return ((a * 16 + b) * 16 + c) * 16 + d

/-- The character that follows a backslash in its short form. -/
def shortEscape? (c : Char) : Option Char :=
  if c = '"' then some '"'
  else if c = '\\' then some '\\'
  else if c = '/' then some '/'
  else if c = 'b' then some '\x08'
  else if c = 'f' then some '\x0c'
  else if c = 'n' then some '\n'
  else if c = 'r' then some '\r'
  else if c = 't' then some '\t'
  else none

/-- Put a character in front of what the rest of a string gave. -/
def consChar (c : Char) : Option (List Char × List Char) → Option (List Char × List Char)
  | some (chars, rest) => some (c :: chars, rest)
  | none => none

/-- The characters of a string after its opening quote. -/
def readStringTail : List Char → Option (List Char × List Char)
  | [] => none
  | '"' :: rest => some ([], rest)
  | '\\' :: 'u' :: a :: b :: c :: d :: rest =>
      match fourHex? a b c d with
      | none => none
      | some high =>
          if 0xDC00 ≤ high ∧ high < 0xE000 then none
          else if 0xD800 ≤ high ∧ high < 0xDC00 then
            match rest with
            | '\\' :: 'u' :: a :: b :: c :: d :: rest =>
                match fourHex? a b c d with
                | none => none
                | some low =>
                    if 0xDC00 ≤ low ∧ low < 0xE000 then
                      consChar (Char.ofNat (0x10000 + (high - 0xD800) * 0x400 + (low - 0xDC00)))
                        (readStringTail rest)
                    else none
            | _ => none
          else consChar (Char.ofNat high) (readStringTail rest)
  | '\\' :: short :: rest =>
      match shortEscape? short with
      | none => none
      | some c => consChar c (readStringTail rest)
  | c :: rest => if c.toNat < 32 then none else consChar c (readStringTail rest)

/-- A string in quotes. -/
def readString : List Char → Option (String × List Char)
  | '"' :: rest =>
      match readStringTail rest with
      | some (chars, rest) => some (String.ofList chars, rest)
      | none => none
  | _ => none

/-- The digits at the front and the characters after them. -/
def spanDigits (chars : List Char) : List Char × List Char := chars.span Char.isDigit

/-- The number that decimal digits write. -/
def digitsValue (digits : List Char) : Nat :=
  digits.foldl (fun value digit => value * 10 + (digit.toNat - '0'.toNat)) 0

/-- The digits of a fraction, if a point follows. -/
def readFraction : List Char → Option (List Char × List Char)
  | '.' :: rest =>
      match spanDigits rest with
      | ([], _) => none
      | (digits, rest) => some (digits, rest)
  | rest => some ([], rest)

/-- The power of ten of an exponent, if one follows. -/
def readExponent : List Char → Option (Option Int × List Char)
  | e :: rest =>
      if e = 'e' ∨ e = 'E' then
        let (negative, rest) : Bool × List Char :=
          match rest with
          | '-' :: rest => (true, rest)
          | '+' :: rest => (false, rest)
          | rest => (false, rest)
        match spanDigits rest with
        | ([], _) => none
        | (digits, rest) =>
            let power : Int := digitsValue digits
            some (some (if negative then -power else power), rest)
      else some (none, e :: rest)
  | [] => some (none, [])

/-- The number of a sign, the digits before and after the point and an exponent. -/
def numberOfParts (negative : Bool) (whole fraction : List Char) (exponent : Option Int) :
    Option Number :=
  let asFloat := (Binary64.ofDecimal negative
    ⟨digitsValue (whole ++ fraction), exponent.getD 0 - fraction.length⟩).map Number.float
  if fraction.isEmpty && exponent.isNone then
    let value := digitsValue whole
    if negative then
      if value = 0 ∨ 0x8000000000000000 < value then asFloat else some (.int (-value))
    else if value < 0x10000000000000000 then some (.int value)
    else asFloat
  else asFloat

/-- A number: no zero before other digits, digits on both sides of a point. -/
def readNumber (chars : List Char) : Option (Number × List Char) := do
  let (negative, chars) : Bool × List Char :=
    match chars with
    | '-' :: rest => (true, rest)
    | rest => (false, rest)
  let (whole, chars) := spanDigits chars
  if whole.isEmpty || (1 < whole.length && whole.head? == some '0') then none
  else do
    let (fraction, chars) ← readFraction chars
    let (exponent, chars) ← readExponent chars
    let number ← numberOfParts negative whole fraction exponent
    return (number, chars)

mutual

/-- A value after its leading blanks. -/
def readValue : Nat → List Char → Option (Value × List Char)
  | 0, _ => none
  | fuel + 1, chars =>
      match skipBlanks chars with
      | 'n' :: 'u' :: 'l' :: 'l' :: rest => some (.null, rest)
      | 't' :: 'r' :: 'u' :: 'e' :: rest => some (.bool true, rest)
      | 'f' :: 'a' :: 'l' :: 's' :: 'e' :: rest => some (.bool false, rest)
      | '"' :: rest => (readString ('"' :: rest)).map fun (s, rest) => (.string s, rest)
      | '[' :: rest =>
          match skipBlanks rest with
          | ']' :: rest => some (.list [], rest)
          | rest => (readElements fuel rest).map fun (values, rest) => (.list values, rest)
      | '{' :: rest =>
          match skipBlanks rest with
          | '}' :: rest => some (.table [], rest)
          | rest => (readEntries fuel [] rest).map fun (entries, rest) => (.table entries, rest)
      | rest => (readNumber rest).map fun (number, rest) => (.number number, rest)

/-- The elements of a list, up to its closing bracket. -/
def readElements : Nat → List Char → Option (List Value × List Char)
  | 0, _ => none
  | fuel + 1, chars =>
      match readValue fuel chars with
      | none => none
      | some (value, rest) =>
          match skipBlanks rest with
          | ',' :: rest =>
              (readElements fuel rest).map fun (values, rest) => (value :: values, rest)
          | ']' :: rest => some ([value], rest)
          | _ => none

/-- The entries of a table after those already read, up to its closing brace. -/
def readEntries : Nat → List (String × Value) → List Char →
    Option (List (String × Value) × List Char)
  | 0, _, _ => none
  | fuel + 1, earlier, chars =>
      match readString (skipBlanks chars) with
      | none => none
      | some (key, rest) =>
          match skipBlanks rest with
          | ':' :: rest =>
              match readValue fuel rest with
              | none => none
              | some (value, rest) =>
                  match skipBlanks rest with
                  | ',' :: rest => readEntries fuel (Value.setEntry key value earlier) rest
                  | '}' :: rest => some (Value.setEntry key value earlier, rest)
                  | _ => none
          | _ => none

end

def read? (text : String) : Option Value :=
  match readValue (text.length + 1) text.toList with
  | some (value, rest) => if (skipBlanks rest).isEmpty then some value else none
  | none => none

end LocaleSite.Json
