import LocaleSite.Sidebar
import LocaleSite.Value

/-!
# Sidebars in documents
-/

namespace LocaleSite

def SidebarItem.toValue (item : SidebarItem) : Value :=
  .table [("text", .string item.text), ("link", .string item.link)]

def SidebarSection.toValue (entry : SidebarSection) : Value :=
  .table [("base", .string entry.base), ("text", .string entry.text),
    ("collapsed", .bool entry.collapsed), ("items", .list (entry.items.map SidebarItem.toValue))]

def Sidebar.toValue (sidebar : Sidebar) : Value :=
  .table (sidebar.sections.entries.map fun entry => (entry.1, entry.2.toValue))

end LocaleSite
