import LocaleSite.Toml.Scalar

/-!
# Strings, keys and blanks of TOML

Each reader takes the remaining characters and returns what it read with the characters after it.
A line ends with a line feed, which a carriage return may precede; no other control character but
the tab may stand in a document.
-/

namespace LocaleSite.Toml

/-- Whether a character may stand in a comment or, unescaped, in a string on one line. -/
def isInLine (c : Char) : Bool := c == '\t' || (32 ≤ c.toNat && c.toNat != 127)

/-- The characters after the spaces and tabs at the front. -/
def skipSpaces (chars : List Char) : List Char := chars.dropWhile fun c => c == ' ' || c == '\t'

/-- The characters after a line end at the front, if there is one. -/
def afterNewline? : List Char → Option (List Char)
  | '\n' :: rest => some rest
  | '\r' :: '\n' :: rest => some rest
  | _ => none

/-- The characters after a comment at the front, up to the line end. -/
def skipComment : List Char → List Char
  | '#' :: rest => rest.dropWhile isInLine
  | rest => rest

/-- The characters after the spaces, comments and line ends at the front, perhaps inside a
comment. -/
def skipBlanksFrom (inComment : Bool) : List Char → List Char
  | [] => []
  | '\r' :: '\n' :: rest => skipBlanksFrom false rest
  | c :: rest =>
      if c = '\n' then skipBlanksFrom false rest
      else if inComment then if isInLine c then skipBlanksFrom true rest else c :: rest
      else if c = ' ' || c = '\t' then skipBlanksFrom false rest
      else if c = '#' then skipBlanksFrom true rest
      else c :: rest

/-- The characters after the spaces, comments and line ends at the front, as between the elements
of a list. -/
def skipBlanks (chars : List Char) : List Char := skipBlanksFrom false chars

/-- The characters after the spaces and line ends at the front, comments not among them. -/
def skipWhite : List Char → List Char
  | ' ' :: rest => skipWhite rest
  | '\t' :: rest => skipWhite rest
  | '\n' :: rest => skipWhite rest
  | '\r' :: '\n' :: rest => skipWhite rest
  | rest => rest

/-- The character of a code point written in hexadecimal digits, if it is one. -/
def scalarOf? (digits : List Char) : Option Char :=
  if digits.all (isDigit 16) then
    let code := digitsValue 16 digits
    if code < 0xD800 ∨ 0xDFFF < code ∧ code < 0x110000 then some (Char.ofNat code) else none
  else none

/-- An escape after its backslash. -/
def readEscape? : List Char → Option (Char × List Char)
  | 'b' :: rest => some ('\x08', rest)
  | 't' :: rest => some ('\t', rest)
  | 'n' :: rest => some ('\n', rest)
  | 'f' :: rest => some ('\x0c', rest)
  | 'r' :: rest => some ('\r', rest)
  | 'e' :: rest => some ('\x1b', rest)
  | '"' :: rest => some ('"', rest)
  | '\\' :: rest => some ('\\', rest)
  | 'x' :: a :: b :: rest => (scalarOf? [a, b]).map (·, rest)
  | 'u' :: a :: b :: c :: d :: rest => (scalarOf? [a, b, c, d]).map (·, rest)
  | 'U' :: a :: b :: c :: d :: e :: f :: g :: h :: rest =>
      (scalarOf? [a, b, c, d, e, f, g, h]).map (·, rest)
  | _ => none

/-- The rest of a string between quotes on one line. The number bounds the characters. -/
def readBasicTail : Nat → List Char → Option (List Char × List Char)
  | 0, _ => none
  | fuel + 1, chars =>
      match chars with
      | '"' :: rest => some ([], rest)
      | '\\' :: rest => do
          let (c, rest) ← readEscape? rest
          let (text, rest) ← readBasicTail fuel rest
          return (c :: text, rest)
      | c :: rest => do
          guard (isInLine c)
          let (text, rest) ← readBasicTail fuel rest
          return (c :: text, rest)
      | [] => none

/-- The rest of a string between apostrophes on one line. -/
def readLiteralTail (chars : List Char) : Option (List Char × List Char) :=
  let (text, rest) := chars.span fun c => isInLine c && c != '\''
  match rest with
  | '\'' :: rest => some (text, rest)
  | _ => none

/-- The end of a string over several lines: three quotes, and up to two more of its text before
them. -/
def closing? (quote : Char) (chars : List Char) : Option (List Char × List Char) :=
  let count := min 5 (chars.takeWhile (· == quote)).length
  if 3 ≤ count then some (List.replicate (count - 3) quote, chars.drop count) else none

/-- The rest of a string over several lines, in which escapes count if the quotes are double. The
number bounds the characters. -/
def readLinesTail (quote : Char) : Nat → List Char → Option (List Char × List Char)
  | 0, _ => none
  | fuel + 1, chars =>
      match closing? quote chars with
      | some closed => some closed
      | none =>
          match chars with
          | [] => none
          | '\\' :: rest =>
              if quote = '"' then
                match afterNewline? (skipSpaces rest) with
                | some rest => readLinesTail quote fuel (skipWhite rest)
                | none => do
                    let (c, rest) ← readEscape? rest
                    let (text, rest) ← readLinesTail quote fuel rest
                    return (c :: text, rest)
              else do
                let (text, rest) ← readLinesTail quote fuel rest
                return ('\\' :: text, rest)
          | '\r' :: '\n' :: rest => do
              let (text, rest) ← readLinesTail quote fuel rest
              return ('\r' :: '\n' :: text, rest)
          | c :: rest => do
              guard (isInLine c || c == '\n')
              let (text, rest) ← readLinesTail quote fuel rest
              return (c :: text, rest)

/-- The characters after one line end at the front, or all of them. -/
def dropNewline (chars : List Char) : List Char := (afterNewline? chars).getD chars

/-- A string on one line, between quotes or apostrophes. -/
def readLineString? : List Char → Option (String × List Char)
  | '"' :: rest =>
      (readBasicTail (rest.length + 1) rest).map fun (text, rest) => (String.ofList text, rest)
  | '\'' :: rest => (readLiteralTail rest).map fun (text, rest) => (String.ofList text, rest)
  | _ => none

/-- A string of any kind. -/
def readString? (chars : List Char) : Option (String × List Char) :=
  match chars with
  | '"' :: '"' :: '"' :: rest =>
      (readLinesTail '"' (rest.length + 1) (dropNewline rest)).map fun (text, rest) =>
        (String.ofList text, rest)
  | '\'' :: '\'' :: '\'' :: rest =>
      (readLinesTail '\'' (rest.length + 1) (dropNewline rest)).map fun (text, rest) =>
        (String.ofList text, rest)
  | chars => readLineString? chars

/-- Whether a character may stand in a key without quotes. -/
def isBareKeyChar (c : Char) : Bool := c.isAlphanum || c == '_' || c == '-'

/-- One part of a key: bare or a string on one line. -/
def readSimpleKey? (chars : List Char) : Option (String × List Char) :=
  match chars.span isBareKeyChar with
  | ([], rest) => readLineString? rest
  | (key, rest) => some (String.ofList key, rest)

/-- The parts of a key, with dots between them. The number bounds the parts. -/
def readKeyParts : Nat → List Char → Option (List String × List Char)
  | 0, _ => none
  | fuel + 1, chars => do
      let (key, rest) ← readSimpleKey? (skipSpaces chars)
      match skipSpaces rest with
      | '.' :: rest =>
          let (keys, rest) ← readKeyParts fuel rest
          return (key :: keys, rest)
      | rest => return ([key], rest)

/-- A key, dotted or not, with the spaces around it. -/
def readKey? (chars : List Char) : Option (List String × List Char) :=
  readKeyParts (chars.length + 1) chars

end LocaleSite.Toml
