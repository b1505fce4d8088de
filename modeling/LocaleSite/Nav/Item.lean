import LocaleSite.Nav.Error

/-!
# Navigation bars

A navigation bar is a list of items; an item links to a page or opens a menu of items. The type
admits links and menus that are empty; `NavTree.validate` is what a published bar has to pass.
It takes the class of highlight patterns as a parameter, so nothing here depends on what a regular
expression is.
-/

namespace LocaleSite

/-- One entry of a navigation bar. -/
inductive NavItem where
  /-- An entry that links to a page. -/
  | leaf (text link : String) (activeMatch : Option String)
  /-- An entry that opens a menu. -/
  | group (text : String) (items : List NavItem) (activeMatch : Option String)
deriving Inhabited, Repr

namespace NavItem

def text : NavItem → String
  | .leaf text _ _ => text
  | .group text _ _ => text

def link? : NavItem → Option String
  | .leaf _ link _ => some link
  | .group .. => none

/-- The entries of a menu, none for a leaf. -/
def children : NavItem → List NavItem
  | .leaf .. => []
  | .group _ items _ => items

/-- The pattern of the paths for which the entry is highlighted. -/
def activeMatch : NavItem → Option String
  | .leaf _ _ activeMatch => activeMatch
  | .group _ _ activeMatch => activeMatch

mutual

/-- The item and all items below it, depth first, each before its children. -/
def descendants : NavItem → List NavItem
  | .leaf text link activeMatch => [.leaf text link activeMatch]
  | .group text items activeMatch => .group text items activeMatch :: descendantsOfAll items

/-- All items of a list and below it, depth first. -/
def descendantsOfAll : List NavItem → List NavItem
  | [] => []
  | item :: rest => descendants item ++ descendantsOfAll rest

end

mutual

/-- Depth first, the first leaf without a link or menu without entries is a fault. -/
def checkShape : NavItem → Except NavError Unit
  | .leaf text link _ => if link.isEmpty then .error (.noLinkOrChildren text) else .ok ()
  | .group text items _ =>
      if items.isEmpty then .error (.noLinkOrChildren text) else checkShapes items

def checkShapes : List NavItem → Except NavError Unit
  | [] => .ok ()
  | item :: rest =>
      match checkShape item with
      | .error error => .error error
      | .ok () => checkShapes rest

end

mutual

/-- Each item with its depth below the item at hand, depth first. -/
def outline (depth : Nat) : NavItem → List (Nat × NavItem)
  | .leaf text link activeMatch => [(depth, .leaf text link activeMatch)]
  | .group text items activeMatch =>
      (depth, .group text items activeMatch) :: outlineOfAll (depth + 1) items

/-- Each item of a list with its depth, depth first. -/
def outlineOfAll (depth : Nat) : List NavItem → List (Nat × NavItem)
  | [] => []
  | item :: rest => outline depth item ++ outlineOfAll depth rest

end

end NavItem

/-- A navigation bar. -/
structure NavTree where
  items : List NavItem
deriving Inhabited, Repr

namespace NavTree

/-- The number of top-level entries. -/
def size (tree : NavTree) : Nat := tree.items.length

/-- All entries depth first, a menu before its entries. -/
def entries (tree : NavTree) : List NavItem := NavItem.descendantsOfAll tree.items

def links (tree : NavTree) : List String := tree.entries.filterMap NavItem.link?

def activeMatches (tree : NavTree) : List String := tree.entries.filterMap NavItem.activeMatch

/-- The first member of a list that stands before it too or among names already seen. -/
def firstRepeated (seen : List String) : List String → Option String
  | [] => none
  | name :: rest => if seen.contains name then some name else firstRepeated (name :: seen) rest

/-- Check the shape of every entry, then that no two leaves share a link, then that every
highlight pattern is a pattern. -/
def validate (isPattern : String → Bool) (tree : NavTree) : Except NavError Unit := do
  NavItem.checkShapes tree.items
  if let some link := firstRepeated [] tree.links then
    throw (.duplicateLink link)
  if let some pattern := tree.activeMatches.find? fun pattern => !isPattern pattern then
    throw (.invalidActiveMatch pattern)

end NavTree

/-- One step of putting a navigation bar together. -/
inductive NavStep where
  | link (text target : String)
  | group (text : String) (activeMatch : Option String) (steps : List NavStep)
  | item (entry : NavItem)

namespace NavStep

mutual

def toItem : NavStep → NavItem
  | .link text target => .leaf text target none
  | .group text activeMatch steps => .group text (toItems steps) activeMatch
  | .item entry => entry

def toItems : List NavStep → List NavItem
  | [] => []
  | step :: rest => toItem step :: toItems rest

end

end NavStep

/-- The navigation bar that steps put together, if it is valid. -/
def NavTree.build (isPattern : String → Bool) (steps : List NavStep) : Except NavError NavTree := do
  let tree : NavTree := ⟨NavStep.toItems steps⟩
  tree.validate isPattern
  return tree

end LocaleSite
