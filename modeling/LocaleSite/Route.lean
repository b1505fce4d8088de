/-!
# Routes

Routes are the paths under which pages are published. A route root is the path of a directory:
slashes around non-empty segments. A path with a scheme of its own leaves the site.
-/

namespace LocaleSite.Route

/-- Whether two slashes follow one another. -/
def hasEmptySegment : List Char → Bool
  | '/' :: '/' :: _ => true
  | _ :: rest => hasEmptySegment rest
  | [] => false

/-- Whether a text begins with another. -/
def startsWith (path start : String) : Bool := start.toList.isPrefixOf path.toList

/-- Whether a path is a slash followed by non-empty segments that each end in a slash. -/
def isRoot (path : String) : Bool :=
  path.toList.head? == some '/' && path.toList.getLast? == some '/' &&
    !hasEmptySegment path.toList

/-- The route root of the directory `name` at the top of the site. -/
def root (name : String) : String := "/" ++ name ++ "/"

/-- Whether a path lies in the directory `name` at the top of the site. -/
def isUnder (name path : String) : Bool := startsWith path (root name)

/-- The characters before the first `://`, if there is one. -/
def beforeAuthority : List Char → Option (List Char)
  | ':' :: '/' :: '/' :: _ => some []
  | c :: rest => (beforeAuthority rest).map (c :: ·)
  | [] => none

/-- Whether a character may stand in a scheme after its first letter. -/
def isSchemeChar (c : Char) : Bool :=
  c.isAlphanum || c == '+' || c == '.' || c == '-'

/-- Whether characters are the name of a scheme. -/
def isScheme : List Char → Bool
  | [] => false
  | first :: rest => first.isAlpha && rest.all isSchemeChar

/-- Whether a path leaves the site: it begins with a scheme and `://`. A `://` further on, in a
query for instance, does not count. -/
def isExternal (path : String) : Bool :=
  match beforeAuthority path.toList with
  | some scheme => isScheme scheme
  | none => false

end LocaleSite.Route
