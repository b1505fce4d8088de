import LocaleSite.Text.Visible

/-!
# Quoted text in messages

A text in double quotes, in which every character can be told apart: the quote and the backslash
are escaped, line ends, tabs and NUL have short escapes, and a character that does not show by
itself is written by its code point in hexadecimal digits, `\u{7f}`.
-/

namespace LocaleSite.Text

/-- The lower-case hexadecimal digits of a number. -/
def hexChars (n : Nat) : List Char := Nat.toDigits 16 n

/-- One character of a quoted text. -/
def quotedChar (c : Char) : List Char :=
  if c = '"' then ['\\', '"']
  else if c = '\\' then ['\\', '\\']
  else if c = '\x00' then ['\\', '0']
  else if c = '\t' then ['\\', 't']
  else if c = '\r' then ['\\', 'r']
  else if c = '\n' then ['\\', 'n']
  else if isVisible c then [c]
  else '\\' :: 'u' :: '{' :: hexChars c.toNat ++ ['}']

/-- A text in double quotes. -/
def quoted (text : String) : String :=
  String.ofList ('"' :: text.toList.flatMap quotedChar ++ ['"'])

end LocaleSite.Text
