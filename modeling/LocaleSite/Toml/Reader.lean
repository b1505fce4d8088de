import LocaleSite.Toml.Text
import LocaleSite.Toml.Tree

/-!
# Reading TOML documents

`Toml.read?` accepts the documents of TOML 1.1. A document is read as a list of statements
(headers and entries), each on lines of its own, and the statements then build the tables in their
order.

Lists and inline tables nest at most eighty deep. Besides, reading a value recurses on a fuel of
the length of the document, which nesting cannot exceed.
-/

namespace LocaleSite.Toml

/-- A part of a document. -/
inductive Statement where
  /-- The header of a table. -/
  | table (path : List String)
  /-- The header of one more table of a list. -/
  | element (path : List String)
  | entry (path : List String) (value : Value)

/-- Lists and inline tables may be nested this deep. -/
def maxNesting : Nat := 80

/-- Whether a character may stand in a value without quotes. -/
def isBareChar (c : Char) : Bool :=
  c.isAlphanum || c == '+' || c == '-' || c == '_' || c == '.' || c == ':'

/-- The characters of a value without quotes; a space counts where a time follows a date. -/
def spanBare (chars : List Char) : List Char × List Char :=
  let (bare, rest) := chars.span isBareChar
  match rest with
  | ' ' :: c :: _ =>
      if (afterDate? bare == some []) && c.isDigit then
        let (time, after) := (rest.drop 1).span isBareChar
        (bare ++ ' ' :: time, after)
      else (bare, rest)
  | _ => (bare, rest)

mutual

/-- A value inside a number of lists and inline tables. -/
def readValue : Nat → Nat → List Char → Option (Value × List Char)
  | 0, _, _ => none
  | fuel + 1, nesting, chars =>
      match chars with
      | '[' :: rest => do
          guard (nesting < maxNesting)
          let (values, rest) ← readElements fuel (nesting + 1) rest
          return (.list values, rest)
      | '{' :: rest => do
          guard (nesting < maxNesting)
          let (entries, rest) ← readEntries fuel (nesting + 1) [] rest
          return (.table (entriesToFields entries), rest)
      | '"' :: _ => (readString? chars).map fun (text, rest) => (.string text, rest)
      | '\'' :: _ => (readString? chars).map fun (text, rest) => (.string text, rest)
      | chars => do
          let (bare, rest) := spanBare chars
          let value ← scalar? bare
          return (value, rest)

/-- The elements of a list up to its closing bracket; a comma may follow the last. -/
def readElements : Nat → Nat → List Char → Option (List Value × List Char)
  | 0, _, _ => none
  | fuel + 1, nesting, chars =>
      match skipBlanks chars with
      | ']' :: rest => some ([], rest)
      | rest => do
          let (value, rest) ← readValue fuel nesting rest
          match skipBlanks rest with
          | ',' :: rest =>
              let (values, rest) ← readElements fuel nesting rest
              return (value :: values, rest)
          | ']' :: rest => return ([value], rest)
          | _ => none

/-- The entries of an inline table after those already read, up to its closing brace; a comma may
follow the last. -/
def readEntries : Nat → Nat → Entries → List Char → Option (Entries × List Char)
  | 0, _, _, _ => none
  | fuel + 1, nesting, earlier, chars =>
      match skipBlanks chars with
      | '}' :: rest => some (earlier, rest)
      | rest => do
          let (path, rest) ← readKey? rest
          let '=' :: rest := rest | none
          let (value, rest) ← readValue fuel nesting (skipSpaces rest)
          let entries ← Entries.insert value path earlier
          match skipBlanks rest with
          | ',' :: rest => readEntries fuel nesting entries rest
          | '}' :: rest => return (entries, rest)
          | _ => none

end

/-- A header or an entry; the number bounds the values. -/
def readStatement (fuel : Nat) (chars : List Char) : Option (Statement × List Char) :=
  match chars with
  | '[' :: '[' :: rest => do
      let (path, rest) ← readKey? rest
      let ']' :: ']' :: rest := rest | none
      return (.element path, rest)
  | '[' :: rest => do
      let (path, rest) ← readKey? rest
      let ']' :: rest := rest | none
      return (.table path, rest)
  | chars => do
      let (path, rest) ← readKey? chars
      let '=' :: rest := rest | none
      let (value, rest) ← readValue fuel 0 (skipSpaces rest)
      return (.entry path value, rest)

/-- The characters after the rest of a line, which may hold a comment. -/
def afterLine? (chars : List Char) : Option (List Char) :=
  match skipComment (skipSpaces chars) with
  | [] => some []
  | rest => afterNewline? rest

/-- The statements of a document. The number is at least that of the characters, and a statement
takes more than one. -/
def readStatements : Nat → List Char → Option (List Statement)
  | 0, _ => none
  | fuel + 1, chars =>
      match skipBlanks chars with
      | [] => some []
      | rest => do
          let (statement, rest) ← readStatement fuel rest
          let rest ← afterLine? rest
          let statements ← readStatements fuel rest
          return statement :: statements

/-- A document under construction: its tables, and the path of the header that entries go to. -/
structure Progress where
  entries : Entries
  path : List String

/-- Add a statement to a document. -/
def Progress.add (progress : Progress) : Statement → Option Progress
  | .table path => do
      let entries ← Entries.atPath Entries.head path progress.entries
      return ⟨entries, path⟩
  | .element path => do
      let entries ← Entries.atPath Entries.append path progress.entries
      return ⟨entries, path⟩
  | .entry path value => do
      let entries ← Entries.within (Entries.insert value path) progress.path progress.entries
      return ⟨entries, progress.path⟩

/-- The table that statements build. -/
def assemble (statements : List Statement) : Option Value := do
  let progress ← statements.foldlM Progress.add ⟨[], []⟩
  return .table (entriesToFields progress.entries)

/-- The characters of a document without a byte order mark at the front. -/
def dropMark : List Char → List Char
  | '\uFEFF' :: rest => rest
  | chars => chars

/-- The table that a document writes. -/
def read? (text : String) : Option Value := do
  let chars := dropMark text.toList
  let statements ← readStatements (chars.length + 1) chars
  assemble statements

end LocaleSite.Toml
