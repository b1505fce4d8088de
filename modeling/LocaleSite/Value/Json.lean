import LocaleSite.Number.Decimal
import LocaleSite.Value

/-!
# JSON text

`Json.compact` writes a value without blanks and `Json.pretty` with one entry a line, two blanks
a level. Both keep the order of entries. In a string, the quote, the backslash and the characters
below U+0020 are escaped and nothing else.

Writing works on characters: each function gives the text of a part in full, so the text of a
whole is the concatenation of the texts of its parts.
-/

namespace LocaleSite.Json

/-- The lower-case hexadecimal digit of a number below sixteen. -/
def hexDigit (n : Nat) : Char :=
  if n < 10 then Char.ofNat ('0'.toNat + n) else Char.ofNat ('a'.toNat + (n - 10))

/-- One character of a string, escaped where it has to be. -/
def escaped (c : Char) : List Char :=
  if c = '"' then ['\\', '"']
  else if c = '\\' then ['\\', '\\']
  else if c = '\x08' then ['\\', 'b']
  else if c = '\t' then ['\\', 't']
  else if c = '\n' then ['\\', 'n']
  else if c = '\x0c' then ['\\', 'f']
  else if c = '\r' then ['\\', 'r']
  else if c.toNat < 32 then
    ['\\', 'u', '0', '0', hexDigit (c.toNat / 16), hexDigit (c.toNat % 16)]
  else [c]

/-- A string in quotes. -/
def stringChars (s : String) : List Char :=
  '"' :: s.toList.flatMap escaped ++ ['"']

/-- A number; one that JSON cannot write is `null`. -/
def numberChars : Number → List Char
  | .int value => intChars value
  | .float value => value.mixedChars
  | .infinity _ | .nan | .unreadable => ['n', 'u', 'l', 'l']

/-- A value that is neither a list nor a table. -/
def scalarChars : Value → List Char
  | .bool true => ['t', 'r', 'u', 'e']
  | .bool false => ['f', 'a', 'l', 's', 'e']
  | .number value => numberChars value
  | .string value => stringChars value
  | .moment text => stringChars text
  | .null | .list _ | .table _ => ['n', 'u', 'l', 'l']

mutual

/-- A value without blanks. -/
def compactChars : Value → List Char
  | .list elements => '[' :: compactElements elements ++ [']']
  | .table entries => '{' :: compactEntries entries ++ ['}']
  | scalar => scalarChars scalar

/-- The elements of a list, with commas between them. -/
def compactElements : List Value → List Char
  | [] => []
  | [value] => compactChars value
  | value :: rest => compactChars value ++ ',' :: compactElements rest

/-- The entries of a table, with commas between them. -/
def compactEntries : List (String × Value) → List Char
  | [] => []
  | [(key, value)] => stringChars key ++ ':' :: compactChars value
  | (key, value) :: rest =>
      stringChars key ++ ':' :: compactChars value ++ ',' :: compactEntries rest

end

/-- A line end and the blanks before a line at a level. -/
def newline (level : Nat) : List Char := '\n' :: List.replicate (2 * level) ' '

mutual

/-- A value laid out over lines, itself at a level. -/
def prettyChars (level : Nat) : Value → List Char
  | .list [] => ['[', ']']
  | .list elements => '[' :: prettyElements (level + 1) elements ++ newline level ++ [']']
  | .table [] => ['{', '}']
  | .table entries => '{' :: prettyEntries (level + 1) entries ++ newline level ++ ['}']
  | scalar => scalarChars scalar

/-- The elements of a list, each on lines of its own. -/
def prettyElements (level : Nat) : List Value → List Char
  | [] => []
  | [value] => newline level ++ prettyChars level value
  | value :: rest =>
      newline level ++ prettyChars level value ++ ',' :: prettyElements level rest

/-- The entries of a table, each on lines of its own. -/
def prettyEntries (level : Nat) : List (String × Value) → List Char
  | [] => []
  | [(key, value)] =>
      newline level ++ stringChars key ++ ':' :: ' ' :: prettyChars level value
  | (key, value) :: rest =>
      newline level ++ stringChars key ++ ':' :: ' ' :: prettyChars level value ++
        ',' :: prettyEntries level rest

end

/-- The text of a value without blanks. -/
def compact (value : Value) : String := String.ofList (compactChars value)

/-- The text of a value over lines, two blanks a level. -/
def pretty (value : Value) : String := String.ofList (prettyChars 0 value)

end LocaleSite.Json
