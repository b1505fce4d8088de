import LocaleSite.Nav.Item
import LocaleSite.Shape.Record

/-!
# Navigation bars in documents

`NavItem.toValue` writes an entry with its link or with its menu, and with its pattern if it has
one. `NavItem.shape` reads an entry from the four fields and refuses one that has both a link and
a menu, or neither, or whose link or menu is empty.

Reading recurses on the depth of the value, which every step into a menu lessens.
-/

namespace LocaleSite

namespace NavItem

mutual

def toValue : NavItem → Value
  | .leaf text link activeMatch =>
      .ofFields [("text", some (.string text)), ("link", some (.string link)),
        ("activeMatch", activeMatch.map .string)]
  | .group text items activeMatch =>
      .ofFields [("text", some (.string text)), ("items", some (.list (toValues items))),
        ("activeMatch", activeMatch.map .string)]

def toValues : List NavItem → List Value
  | [] => []
  | item :: rest => toValue item :: toValues rest

end

/-- The four fields of an entry as a document may give them. -/
structure Fields where
  text : String
  link : Option String
  items : Option (List NavItem)
  activeMatch : Option String

/-- The entry with some fields, if it has either a link or a menu and neither is empty. -/
def ofFields (fields : Fields) : Except NavError NavItem :=
  match fields.link, fields.items with
  | some _, some _ => .error (.linkAndChildren fields.text)
  | none, none => .error (.noLinkOrChildren fields.text)
  | some link, none =>
      let item := NavItem.leaf fields.text link fields.activeMatch
      item.checkShape.map fun _ => item
  | none, some items =>
      let item := NavItem.group fields.text items fields.activeMatch
      item.checkShape.map fun _ => item

/-- The fields of an entry, the entries of a menu having a given shape. -/
def fieldsRecord (item : Shape NavItem) : Record Fields :=
  Record.start Fields.mk
    |>.field (.required "text" .text)
    |>.field (.optional "link" .text)
    |>.field (.optional "items" item.list)
    |>.field ((Field.optional "activeMatch" .text).orNamed "active_match")

/-- An entry whose menus are nested less deep than a number. -/
def shapeWithin : Nat → Shape NavItem
  | 0 => fun _ _ => .error .unfit
  | depth + 1 =>
      (fieldsRecord (shapeWithin depth)).shape "RawNavItem" |>.check fun fields =>
        (ofFields fields).mapError .item

def shape : Shape NavItem := fun format value => shapeWithin (value.depth + 1) format value

end NavItem

namespace NavTree

def toValue (tree : NavTree) : Value := .list (NavItem.toValues tree.items)

/-- A navigation bar, as the list of its entries. -/
def shape : Shape NavTree := NavItem.shape.list.check fun items => .ok ⟨items⟩

end NavTree

end LocaleSite
