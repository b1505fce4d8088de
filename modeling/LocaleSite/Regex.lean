import LocaleSite.Regex.Check

/-!
# Regular expressions as highlight patterns

`Regex.isValid` tells whether a text is a regular expression by the rules for writing one. How much
the renderer makes of it is not counted: one that repeats a great deal may still be too large to
use.
-/

namespace LocaleSite.Regex

def isValid (text : String) : Bool :=
  match read? text with
  | some regex => regex.nesting ≤ maxNesting && regex.isUsable
  | none => false

end LocaleSite.Regex
