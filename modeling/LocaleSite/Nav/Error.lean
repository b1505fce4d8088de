/-!
# Faults of navigation bars and sidebars
-/

namespace LocaleSite

/-- What is wrong with a navigation bar or a sidebar. -/
inductive NavError where
  /-- An entry has a link and child entries. -/
  | linkAndChildren (text : String)
  /-- An entry has neither a link nor child entries. -/
  | noLinkOrChildren (text : String)
  /-- Two entries of one navigation bar have the same link. -/
  | duplicateLink (link : String)
  /-- A highlight pattern is not a regular expression. -/
  | invalidActiveMatch (pattern : String)
  /-- Two sections of one sidebar have the same route root. -/
  | duplicateSidebarKey (key : String)
  /-- The base of a sidebar section is not a route root. -/
  | invalidSidebarBase (base : String)
deriving DecidableEq, Repr

def NavError.message : NavError → String
  | .linkAndChildren text => s!"navigation item '{text}' has both a link and child items"
  | .noLinkOrChildren text => s!"item '{text}' has neither a link nor child items"
  | .duplicateLink link => s!"duplicate navigation link: {link}"
  | .invalidActiveMatch pattern => s!"invalid activeMatch pattern '{pattern}'"
  | .duplicateSidebarKey key => s!"duplicate sidebar section: {key}"
  | .invalidSidebarBase base =>
      s!"sidebar base '{base}' must start and end with '/' and have no empty segments"

end LocaleSite
