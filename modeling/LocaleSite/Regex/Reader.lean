import LocaleSite.Regex.Tree
import LocaleSite.Text.Alphanumeric
import LocaleSite.Text.Blank

/-!
# Reading regular expressions

`Regex.read?` reads the tree of a regular expression. There is no look-around and there are no
references to groups; a brace begins a repetition, an escaped letter needs a meaning, and the names
of groups are distinct. Where the flag `x` is set, blanks and comments between the parts do not
count.

Each reader takes the remaining characters and returns what it read with the characters after it.
The readers of groups and classes recurse on a fuel of the length of the expression, since each
step takes a character.
-/

namespace LocaleSite.Regex

/-! ## Characters -/

/-- The characters after the blanks and comments at the front, perhaps inside a comment. -/
def skipVerbose (inComment : Bool) : List Char → List Char
  | [] => []
  | c :: rest =>
      if inComment then skipVerbose (c != '\n') rest
      else if Text.isBlank c then skipVerbose false rest
      else if c = '#' then skipVerbose true rest
      else c :: rest

/-- The characters after blanks and comments where these do not count. -/
def skip (verbose : Bool) (chars : List Char) : List Char :=
  if verbose then skipVerbose false chars else chars

/-- The character that follows, blanks and the mark of a comment left out where these do not
count. -/
def peek (verbose : Bool) (chars : List Char) : Option Char :=
  if verbose then
    match chars.dropWhile Text.isBlank with
    | '#' :: rest => (rest.dropWhile Text.isBlank).head?
    | rest => rest.head?
  else chars.head?

/-- Characters that have a meaning of their own somewhere in an expression. -/
def isMeta (c : Char) : Bool :=
  ['\\', '.', '+', '*', '?', '(', ')', '|', '[', ']', '{', '}', '^', '$', '#', '&', '-',
    '~'].contains c

/-- Whether a character stands for itself after a backslash. -/
def isPlainEscape (c : Char) : Bool :=
  isMeta c || (c.toNat < 128 && !c.isAlphanum && c != '<' && c != '>')

def isHexDigit (c : Char) : Bool :=
  c.isDigit || ('a' ≤ c && c ≤ 'f') || ('A' ≤ c && c ≤ 'F')

def hexDigitValue (c : Char) : Nat :=
  if c.isDigit then c.toNat - '0'.toNat
  else if 'a' ≤ c then c.toNat - 'a'.toNat + 10
  else c.toNat - 'A'.toNat + 10

/-- The character whose code point hexadecimal digits write, if there is one. -/
def hexChar? (digits : List Char) : Option Char :=
  let code := digits.foldl (fun value digit => value * 16 + hexDigitValue digit) 0
  if code < 0xD800 ∨ 0xDFFF < code ∧ code < 0x110000 then some (Char.ofNat code) else none

/-! ## Escapes -/

/-- A number of hexadecimal digits. -/
def readHexDigits (verbose : Bool) : Nat → List Char → Option (List Char × List Char)
  | 0, chars => some ([], chars)
  | count + 1, c :: rest =>
      if isHexDigit c then
        (readHexDigits verbose count (skip verbose rest)).map fun (digits, rest) =>
          (c :: digits, rest)
      else none
  | _ + 1, [] => none

/-- Hexadecimal digits up to a closing brace. The number bounds the digits. -/
def readHexBraced (verbose : Bool) : Nat → List Char → Option (List Char × List Char)
  | 0, _ => none
  | fuel + 1, chars =>
      match skip verbose chars with
      | '}' :: rest => some ([], skip verbose rest)
      | c :: rest =>
          if isHexDigit c then
            (readHexBraced verbose fuel rest).map fun (digits, rest) => (c :: digits, rest)
          else none
      | [] => none

/-- The rest of an escape by code point; `count` digits, unless they stand in braces. -/
def readCodePoint (verbose : Bool) (count : Nat) (chars : List Char) :
    Option (Regex × List Char) :=
  match skip verbose chars with
  | '{' :: rest => do
      let (digits, rest) ← readHexBraced verbose (rest.length + 1) rest
      guard (!digits.isEmpty)
      let c ← hexChar? digits
      return (.literal c false, rest)
  | chars => do
      let (digits, rest) ← readHexDigits verbose count chars
      let c ← hexChar? digits
      return (.literal c (count == 2), rest)

/-- The text of a property in braces, up to the closing one. The number bounds the characters. -/
def readPropertyText (verbose : Bool) : Nat → List Char → Option (List Char × List Char)
  | 0, _ => none
  | fuel + 1, chars =>
      match skip verbose chars with
      | '}' :: rest => some ([], rest)
      | c :: rest =>
          (readPropertyText verbose fuel rest).map fun (text, rest) => (c :: text, rest)
      | [] => none

/-- All before the first `!=`, and all after it. -/
def splitUnequal : List Char → Option (List Char × List Char)
  | '!' :: '=' :: rest => some ([], rest)
  | c :: rest => (splitUnequal rest).map fun (name, value) => (c :: name, value)
  | [] => none

/-- All before the first of some character, and all after it. -/
def splitAt (mark : Char) (chars : List Char) : Option (List Char × List Char) :=
  match chars.span (· != mark) with
  | (name, _ :: value) => some (name, value)
  | (_, []) => none

/-- The property that a text asks for. -/
def propertyQuery (text : List Char) : PropertyQuery :=
  match splitUnequal text <|> splitAt ':' text <|> splitAt '=' text with
  | some (left, right) => .value (String.ofList left) (String.ofList right)
  | none => .name (String.ofList text)

/-- The rest of an escape for a property: one letter, or a text in braces. -/
def readProperty (verbose : Bool) (chars : List Char) : Option (Regex × List Char) :=
  match skip verbose chars with
  | '{' :: rest => do
      let (text, rest) ← readPropertyText verbose (rest.length + 1) rest
      return (.property (propertyQuery text), rest)
  | '\\' :: _ => none
  | c :: rest => some (.property (.name (String.ofList [c])), skip verbose rest)
  | [] => none

/-- Whether a character may stand in the name of a kind of word boundary. -/
def isBoundaryChar (c : Char) : Bool := c.isAlpha || c == '-'

/-- The name of a kind of word boundary and the characters after it. The number bounds the
characters. -/
def readBoundaryName (verbose : Bool) : Nat → List Char → List Char × List Char
  | 0, chars => ([], chars)
  | fuel + 1, chars =>
      match chars with
      | c :: rest =>
          if isBoundaryChar c then
            let (name, rest) := readBoundaryName verbose fuel (skip verbose rest)
            (c :: name, rest)
          else ([], c :: rest)
      | [] => ([], [])

/-- What follows an escaped `b`: nothing, or a kind of word boundary in braces. Braces that do not
begin like a name are left for a repetition. -/
def readBoundary (verbose : Bool) (chars : List Char) : Option (Regex × List Char) :=
  match chars with
  | '{' :: inner =>
      match skip verbose inner with
      | [] => none
      | c :: rest =>
          if isBoundaryChar c then
            match readBoundaryName verbose (rest.length + 1) (c :: rest) with
            | (name, '}' :: rest) =>
                if ["start", "end", "start-half", "end-half"].contains (String.ofList name) then
                  some (.look, rest)
                else none
            | _ => none
          else some (.look, '{' :: inner)
  | chars => some (.look, chars)

/-- An escape after its backslash. -/
def readEscape (verbose : Bool) : List Char → Option (Regex × List Char)
  | 'x' :: rest => readCodePoint verbose 2 rest
  | 'u' :: rest => readCodePoint verbose 4 rest
  | 'U' :: rest => readCodePoint verbose 8 rest
  | 'p' :: rest => readProperty verbose rest
  | 'P' :: rest => readProperty verbose rest
  | 'd' :: rest => some (.letter .digit false, rest)
  | 'D' :: rest => some (.letter .digit true, rest)
  | 's' :: rest => some (.letter .space false, rest)
  | 'S' :: rest => some (.letter .space true, rest)
  | 'w' :: rest => some (.letter .word false, rest)
  | 'W' :: rest => some (.letter .word true, rest)
  | 'a' :: rest => some (.literal '\x07' false, rest)
  | 'f' :: rest => some (.literal '\x0c' false, rest)
  | 't' :: rest => some (.literal '\t' false, rest)
  | 'n' :: rest => some (.literal '\n' false, rest)
  | 'r' :: rest => some (.literal '\r' false, rest)
  | 'v' :: rest => some (.literal '\x0b' false, rest)
  | 'A' :: rest => some (.look, rest)
  | 'z' :: rest => some (.look, rest)
  | 'b' :: rest => readBoundary verbose rest
  | 'B' :: rest => some (.look, rest)
  | '<' :: rest => some (.look, rest)
  | '>' :: rest => some (.look, rest)
  | c :: rest => if isPlainEscape c then some (.literal c false, rest) else none
  | [] => none

/-! ## Classes in brackets -/

/-- The names of the classes of ASCII characters. -/
def asciiClasses : List String :=
  ["alnum", "alpha", "ascii", "blank", "cntrl", "digit", "graph", "lower", "print", "punct",
    "space", "upper", "word", "xdigit"]

/-- A class of ASCII characters after the bracket that opens it. -/
def readAsciiClass (chars : List Char) : Option (ClassItem × List Char) :=
  match chars with
  | ':' :: rest =>
      let (negated, rest) : Bool × List Char :=
        match rest with
        | '^' :: rest => (true, rest)
        | rest => (false, rest)
      match rest.span (· != ':') with
      | (name, ':' :: ']' :: rest) =>
          if asciiClasses.contains (String.ofList name) then some (.ascii negated, rest) else none
      | _ => none
  | _ => none

/-- A member of a class that stands alone; a condition on the place is none. -/
def classItem? : Regex → Option ClassItem
  | .literal c byte => some (.literal c byte)
  | .letter kind negated => some (.letter kind negated)
  | .property query => some (.property query)
  | _ => none

/-- An escape or a single character in a class. -/
def readClassChar (verbose : Bool) : List Char → Option (Regex × List Char)
  | '\\' :: rest => readEscape verbose rest
  | c :: rest => some (.literal c false, rest)
  | [] => none

/-- A single member of a class or a range of characters. -/
def readRange (verbose : Bool) (chars : List Char) : Option (ClassItem × List Char) := do
  let (first, rest) ← readClassChar verbose chars
  match skip verbose rest with
  | [] => none
  | '-' :: rest =>
      if peek verbose rest == some ']' || peek verbose rest == some '-' then
        let item ← classItem? first
        return (item, '-' :: rest)
      else
        let rest := skip verbose rest
        let (last, rest) ← readClassChar verbose rest
        match first, last with
        | .literal low lowByte, .literal high highByte =>
            guard (low ≤ high)
            return (.range (.literal low lowByte) (.literal high highByte), rest)
        | _, _ => none
  | rest =>
      let item ← classItem? first
      return (item, rest)

/-- The hyphens at the front of a class, as members. The number bounds them. -/
def readHyphens (verbose : Bool) : Nat → List Char → List ClassItem × List Char
  | 0, chars => ([], chars)
  | fuel + 1, chars =>
      match chars with
      | '-' :: rest =>
          let (items, rest) := readHyphens verbose fuel (skip verbose rest)
          (.literal '-' false :: items, rest)
      | rest => ([], rest)

/-- What stands first in a class: whether it is negated, then hyphens or a closing bracket that
count as members. -/
def readClassStart (verbose : Bool) (chars : List Char) : Bool × List ClassItem × List Char :=
  let (negated, chars) : Bool × List Char :=
    match skip verbose chars with
    | '^' :: rest => (true, skip verbose rest)
    | rest => (false, rest)
  match readHyphens verbose chars.length chars with
  | ([], ']' :: rest) => (negated, [.literal ']' false], skip verbose rest)
  | (items, rest) => (negated, items, rest)

/-- An operation on classes that has its left operand. -/
abbrev PendingOp := Option (ClassOp × ClassItem)

/-- The class of a pending operation and the members of its right operand. -/
def closeOp (pending : PendingOp) (items : List ClassItem) : ClassItem :=
  let right := ClassItem.ofItems items.reverse
  match pending with
  | some (kind, left) => .op kind left right
  | none => right

/-- The members of a class up to its closing bracket, after those already read, last first. -/
def readClass (verbose : Bool) : Nat → Bool → PendingOp → List ClassItem → List Char →
    Option (ClassItem × List Char)
  | 0, _, _, _, _ => none
  | fuel + 1, negated, pending, items, chars =>
      match skip verbose chars with
      | [] => none
      | ']' :: rest => some (.bracketed negated (closeOp pending items), rest)
      | '[' :: rest =>
          match readAsciiClass rest with
          | some (item, rest) => readClass verbose fuel negated pending (item :: items) rest
          | none =>
              let (innerNegated, innerItems, rest) := readClassStart verbose rest
              match readClass verbose fuel innerNegated none innerItems.reverse rest with
              | some (item, rest) => readClass verbose fuel negated pending (item :: items) rest
              | none => none
      | '&' :: '&' :: rest =>
          readClass verbose fuel negated (some (.intersection, closeOp pending items)) [] rest
      | '-' :: '-' :: rest =>
          readClass verbose fuel negated (some (.difference, closeOp pending items)) [] rest
      | '~' :: '~' :: rest =>
          readClass verbose fuel negated (some (.symmetricDifference, closeOp pending items)) []
            rest
      | rest =>
          match readRange verbose rest with
          | some (item, rest) => readClass verbose fuel negated pending (item :: items) rest
          | none => none

/-- A class after its opening bracket. -/
def readBracketed (verbose : Bool) (chars : List Char) : Option (Regex × List Char) :=
  let (negated, items, rest) := readClassStart verbose chars
  match readClass verbose (chars.length + 1) negated none items.reverse rest with
  | some (.bracketed negated item, rest) => some (.bracketed negated item, rest)
  | _ => none

/-! ## Repetitions -/

/-- The digits at the front, blanks between them left out where these do not count. The number
bounds the digits. -/
def readDigits (verbose : Bool) : Nat → List Char → List Char × List Char
  | 0, chars => ([], chars)
  | fuel + 1, chars =>
      match chars with
      | c :: rest =>
          if c.isDigit then
            let (digits, rest) := readDigits verbose fuel (skip verbose rest)
            (c :: digits, rest)
          else ([], c :: rest)
      | [] => ([], [])

/-- A count of at most 32 bits with the blanks around it. -/
def readCount (verbose : Bool) (chars : List Char) : Option (Nat × List Char) :=
  let start := chars.dropWhile Text.isBlank
  let (digits, rest) := readDigits verbose start.length start
  let count := digits.foldl (fun value digit => value * 10 + (digit.toNat - '0'.toNat)) 0
  if digits.isEmpty || 0x100000000 ≤ count then none
  else some (count, skip verbose (rest.dropWhile Text.isBlank))

/-- The characters after the mark of a repetition that takes as little as possible. -/
def afterLazy : List Char → List Char
  | '?' :: rest => rest
  | rest => rest

/-- The bounds of a repetition after its opening brace. -/
def readBounds (verbose : Bool) (chars : List Char) : Option ((Nat × Option Nat) × List Char) := do
  let (least, rest) ← readCount verbose (skip verbose chars)
  match rest with
  | '}' :: rest => return ((least, some least), afterLazy (skip verbose rest))
  | ',' :: rest =>
      match skip verbose rest with
      | '}' :: rest => return ((least, none), afterLazy (skip verbose rest))
      | rest => do
          let (most, rest) ← readCount verbose rest
          let '}' :: rest := rest | none
          guard (least ≤ most)
          return ((least, some most), afterLazy (skip verbose rest))
  | _ => none

/-- Repeat the part read last; flags and nothing at all cannot be repeated. -/
def repeatLast (least : Nat) (most : Option Nat) : List Regex → Option (List Regex)
  | [] => none
  | .flags _ :: _ => none
  | part :: earlier => some (.repetition least most part :: earlier)

/-! ## Groups -/

def isFlag (c : Char) : Bool := ['i', 'm', 's', 'U', 'u', 'R', 'x'].contains c

/-- The flags after those already read, up to a colon or a closing parenthesis, which is returned
with the characters after it. A letter stands once, a minus too, and not last. -/
def readFlags (on : Bool) (earlier : FlagSet) : List Char → Option (FlagSet × Char × List Char)
  | [] => none
  | c :: rest =>
      if c = ':' || c = ')' then
        if !on && earlier.all (·.2) then none else some (earlier, c, rest)
      else if c = '-' then if on then readFlags false earlier rest else none
      else if isFlag c && (earlier.lookup c).isNone then readFlags on (earlier ++ [(c, on)]) rest
      else none

/-- Whether a character may stand in the name of a group. -/
def isNameChar (first : Bool) (c : Char) : Bool :=
  if first then c == '_' || Text.isLetter c
  else ['_', '.', '[', ']'].contains c || Text.isAlphanumeric c

/-- The name of a group up to the closing angle bracket. -/
def readGroupName (chars : List Char) : Option (String × List Char) :=
  match chars.span (· != '>') with
  | (first :: others, _ :: rest) =>
      if isNameChar true first && others.all (isNameChar false) then
        some (String.ofList (first :: others), rest)
      else none
  | _ => none

/-- What stands after an opening parenthesis. -/
inductive GroupStart where
  /-- Flags for the rest of the group around. -/
  | flags (set : FlagSet)
  | group (captures : Bool) (set : FlagSet) (name : Option String)

/-- Read what stands after an opening parenthesis. -/
def readGroupStart : List Char → Option (GroupStart × List Char)
  | '?' :: '=' :: _ => none
  | '?' :: '!' :: _ => none
  | '?' :: '<' :: '=' :: _ => none
  | '?' :: '<' :: '!' :: _ => none
  | '?' :: 'P' :: '<' :: rest => named rest
  | '?' :: '<' :: rest => named rest
  | '?' :: rest =>
      match readFlags true [] rest with
      | some (set, ')', rest) => if set.isEmpty then none else some (.flags set, rest)
      | some (set, _, rest) => some (.group false set none, rest)
      | none => none
  | rest => some (.group true [] none, rest)
where
  /-- A group with a name. -/
  named (chars : List Char) : Option (GroupStart × List Char) :=
    (readGroupName chars).map fun (name, rest) => (.group true [] (some name), rest)

/-- How far an expression has been read. -/
structure Cursor where
  rest : List Char
  /-- Whether blanks and comments do not count. -/
  verbose : Bool
  /-- The names of groups so far. -/
  names : List String

/-- Whether blanks and comments do not count once flags are set. -/
def verboseAfter (flags : FlagSet) (verbose : Bool) : Bool := (flags.lookup 'x').getD verbose

/-- The expression of the branches and parts read, each last first. -/
def finish (branches : List Regex) (parts : List Regex) : Regex :=
  ofBranches ((ofParts parts.reverse :: branches).reverse)

/-- An expression up to the end of its group, after the branches and parts already read. -/
def readBranches : Nat → Cursor → List Regex → List Regex → Option (Regex × Cursor)
  | 0, _, _, _ => none
  | fuel + 1, cursor, branches, parts =>
      let readOn (part : Regex) (rest : List Char) :=
        readBranches fuel { cursor with rest } branches (part :: parts)
      let repeated (least : Nat) (most : Option Nat) (rest : List Char) :=
        match repeatLast least most parts with
        | some parts => readBranches fuel { cursor with rest } branches parts
        | none => none
      match skip cursor.verbose cursor.rest with
      | [] => some (finish branches parts, { cursor with rest := [] })
      | ')' :: rest => some (finish branches parts, { cursor with rest := ')' :: rest })
      | '|' :: rest => readBranches fuel { cursor with rest } (ofParts parts.reverse :: branches) []
      | '(' :: rest =>
          match readGroupStart (skip cursor.verbose rest) with
          | none => none
          | some (.flags set, rest) =>
              readBranches fuel
                { cursor with rest, verbose := verboseAfter set cursor.verbose } branches
                (.flags set :: parts)
          | some (.group captures set name, rest) =>
              if (name.map cursor.names.contains).getD false then none
              else
                let inner : Cursor :=
                  ⟨rest, verboseAfter set cursor.verbose, name.toList ++ cursor.names⟩
                match readBranches fuel inner [] [] with
                | some (body, ⟨')' :: rest, _, names⟩) =>
                    readBranches fuel ⟨rest, cursor.verbose, names⟩ branches
                      (.group captures set body :: parts)
                | _ => none
      | '[' :: rest =>
          match readBracketed cursor.verbose rest with
          | some (part, rest) => readOn part rest
          | none => none
      | '?' :: rest => repeated 0 (some 1) (afterLazy rest)
      | '*' :: rest => repeated 0 none (afterLazy rest)
      | '+' :: rest => repeated 1 none (afterLazy rest)
      | '{' :: rest =>
          match readBounds cursor.verbose rest with
          | some ((least, most), rest) => repeated least most rest
          | none => none
      | '\\' :: rest =>
          match readEscape cursor.verbose rest with
          | some (part, rest) => readOn part rest
          | none => none
      | '.' :: rest => readOn .dot rest
      | '^' :: rest => readOn .look rest
      | '$' :: rest => readOn .look rest
      | c :: rest => readOn (.literal c false) rest

/-- The tree of a regular expression. -/
def read? (text : String) : Option Regex :=
  match readBranches (text.length + 1) ⟨text.toList, false, []⟩ [] [] with
  | some (regex, ⟨[], _, _⟩) => some regex
  | _ => none

end LocaleSite.Regex
