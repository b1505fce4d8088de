import LocaleSite.KeyMap
import LocaleSite.Nav.Error
import LocaleSite.Route

/-!
# Sidebars

A sidebar has one section for each of some route roots. `Sidebar.add` refuses a section whose base
is no route root, is taken, or that lists a page without a link, so what these refusals ensure is
part of the type: every section stands at its own base, the base is a route root, and no link is
empty.
-/

namespace LocaleSite

/-- A page listed in a sidebar; the link is relative to the base of its section. -/
structure SidebarItem where
  text : String
  link : String
deriving DecidableEq, Repr, Inhabited

/-- The pages listed for every page under a route root. -/
structure SidebarSection where
  base : String
  text : String
  collapsed : Bool
  items : List SidebarItem
deriving DecidableEq, Repr, Inhabited

/-- Whether a section may stand in a sidebar. -/
def SidebarSection.WellFormed (entry : SidebarSection) : Prop :=
  Route.isRoot entry.base = true ∧ ∀ item ∈ entry.items, item.link.isEmpty = false

/-- Sections by their bases. -/
structure Sidebar where
  sections : KeyMap SidebarSection
  wellFormed : ∀ entry ∈ sections.entries, entry.2.base = entry.1 ∧ entry.2.WellFormed

namespace Sidebar

@[ext]
theorem ext {left right : Sidebar} (same : left.sections = right.sections) : left = right := by
  cases left
  cases right
  cases same
  rfl

def empty : Sidebar := ⟨.empty, fun _ mem => by simp [KeyMap.empty] at mem⟩

instance : Inhabited Sidebar := ⟨empty⟩

def keys (sidebar : Sidebar) : List String := sidebar.sections.keys

/-- The sections in the order of their bases. -/
def toList (sidebar : Sidebar) : List SidebarSection := sidebar.sections.values

def get? (sidebar : Sidebar) (base : String) : Option SidebarSection := sidebar.sections.get? base

def size (sidebar : Sidebar) : Nat := sidebar.sections.size

def isEmpty (sidebar : Sidebar) : Bool := sidebar.sections.isEmpty

def add (sidebar : Sidebar) (entry : SidebarSection) : Except NavError Sidebar :=
  if isRoot : Route.isRoot entry.base = true then
    if sidebar.sections.contains entry.base then .error (.duplicateSidebarKey entry.base)
    else
      match unlinked : entry.items.find? (·.link.isEmpty) with
      | some item => .error (.noLinkOrChildren item.text)
      | none =>
          .ok ⟨sidebar.sections.insert entry.base entry, by
            intro other mem
            rcases KeyMap.mem_insertEntry mem with same | old
            · subst same
              refine ⟨rfl, isRoot, fun item itemMem => ?_⟩
              simpa using List.find?_eq_none.1 unlinked item itemMem
            · exact sidebar.wellFormed other old⟩
  else .error (.invalidSidebarBase entry.base)

/-- The sidebar of some sections, added one after the other. -/
def ofList (entries : List SidebarSection) : Except NavError Sidebar :=
  entries.foldlM add empty

end Sidebar

end LocaleSite
