import LocaleSite.Text.Alphanumeric

/-!
# Variables in text

A text with a `${` in it may refer to variables. `${NAME}` stands for the value of a variable,
`${NAME:-default}` for the default where the variable is unset, and so does a bare `$NAME`, which
ends with the last letter, digit or underscore. `$$` stands for one `$`. What is put in for a
reference is not looked at again. A text without `${` stands for itself.
-/

namespace LocaleSite.Expansion

/-- A variable that is referred to without a default and unset. -/
structure Unset where
  name : String
deriving DecidableEq, Repr

/-- What a reference may look like between the braces: all before the first `:-`, all after it. -/
def splitDefault : List Char → Option (List Char × List Char)
  | [] => none
  | ':' :: '-' :: rest => some ([], rest)
  | c :: rest => (splitDefault rest).map fun (name, default) => (c :: name, default)

/-- The name and the default of a reference in braces. Without a name before it, `:-` is part of
the name. -/
def nameAndDefault (inner : List Char) : List Char × Option (List Char) :=
  match splitDefault inner with
  | some (c :: name, default) => (c :: name, some default)
  | _ => (inner, none)

/-- The value of a variable or its default. -/
def resolve (valueOf : String → Option String) (name : List Char) (default : Option (List Char)) :
    Except Unset (List Char) :=
  match valueOf (String.ofList name), default with
  | some value, _ => .ok value.toList
  | none, some default => .ok default
  | none, none => .error ⟨String.ofList name⟩

/-- Whether a character belongs to the name of a reference without braces. -/
def isNameChar (c : Char) : Bool := Text.isAlphanumeric c || c == '_'

private theorem length_dropWhile_le (p : Char → Bool) (chars : List Char) :
    (chars.dropWhile p).length ≤ chars.length :=
  (List.dropWhile_sublist p).length_le

/-- A text with its references replaced. -/
def expandChars (valueOf : String → Option String) : List Char → Except Unset (List Char)
  | [] => .ok []
  | '$' :: '{' :: rest =>
      match _closing : rest.dropWhile (· != '}') with
      | [] => do return '$' :: '{' :: (← expandChars valueOf rest)
      | _ :: after => do
          let (name, default) := nameAndDefault (rest.takeWhile (· != '}'))
          let value ← resolve valueOf name default
          return value ++ (← expandChars valueOf after)
  | '$' :: '$' :: rest => do return '$' :: (← expandChars valueOf rest)
  | '$' :: c :: rest =>
      if isNameChar c then do
        let value ← resolve valueOf (c :: rest.takeWhile isNameChar) none
        return value ++ (← expandChars valueOf (rest.dropWhile isNameChar))
      else do return '$' :: (← expandChars valueOf (c :: rest))
  | c :: rest => do return c :: (← expandChars valueOf rest)
termination_by chars => chars.length
decreasing_by
  · show rest.length < rest.length + 2
    omega
  · have closing := length_dropWhile_le (· != '}') rest
    rw [_closing, List.length_cons] at closing
    show after.length < rest.length + 2
    omega
  · show rest.length < rest.length + 2
    omega
  · have shorter := length_dropWhile_le isNameChar rest
    show (rest.dropWhile isNameChar).length < rest.length + 2
    omega
  · exact Nat.lt_succ_self _
  · exact Nat.lt_succ_self _

/-- Whether `${` stands in a text. -/
def hasReference : List Char → Bool
  | '$' :: '{' :: _ => true
  | _ :: rest => hasReference rest
  | [] => false

/-- A text with its references replaced, if it has one in braces. -/
def expand (valueOf : String → Option String) (text : String) : Except Unset String :=
  if hasReference text.toList then (expandChars valueOf text.toList).map String.ofList
  else .ok text

end LocaleSite.Expansion
