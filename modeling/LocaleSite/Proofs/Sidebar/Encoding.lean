import LocaleSite.Proofs.Value.Faithful
import LocaleSite.Sidebar.Encoding
import LocaleSite.Site.Host

/-!
# Written sidebars

Sidebars are written faithfully, also as the renderer takes them. The renderer's table is made
anew from the bases of the sections; nothing is lost since each section stands at its own base.
-/

namespace LocaleSite

namespace SidebarItem

theorem faithful_toValue : Value.Faithful toValue where
  plain := by
    intro item
    exact .table (by simp) (by simp [Value.Plain.string])
  inj := by
    rintro ⟨text, link⟩ ⟨otherText, otherLink⟩ same
    simpa [toValue] using same

end SidebarItem

namespace SidebarSection

theorem faithful_toValue : Value.Faithful toValue where
  plain := by
    intro entry
    have plainItems := SidebarItem.faithful_toValue.list.plain entry.items
    exact .table (by simp) (by simp [Value.Plain.string, Value.Plain.bool, plainItems])
  inj := by
    rintro ⟨base, text, collapsed, items⟩ ⟨otherBase, otherText, otherCollapsed, others⟩ same
    simpa [toValue, SidebarItem.faithful_toValue.inj.list_map.eq_iff] using same

theorem faithful_hostValue : Value.Faithful hostValue where
  plain := by
    intro entry
    have plainItems := SidebarItem.faithful_toValue.list.plain entry.items
    have plainGroup : (Value.table [("text", .string entry.text),
        ("collapsed", .bool entry.collapsed),
        ("items", .list (entry.items.map SidebarItem.toValue))]).Plain :=
      .table (by simp) (by simp [Value.Plain.string, Value.Plain.bool, plainItems])
    have plainGroups := Value.Plain.list (List.forall_mem_singleton.2 plainGroup)
    exact .table (by simp) (by simp [Value.Plain.string, plainGroups])
  inj := by
    rintro ⟨base, text, collapsed, items⟩ ⟨otherBase, otherText, otherCollapsed, others⟩ same
    simpa [hostValue, SidebarItem.faithful_toValue.inj.list_map.eq_iff] using same

end SidebarSection

namespace Sidebar

theorem faithful_toValue : Value.Faithful toValue where
  plain := by
    intro sidebar
    exact SidebarSection.faithful_toValue.keyMap.plain sidebar.sections
  inj := by
    intro left right same
    exact Sidebar.ext (SidebarSection.faithful_toValue.keyMap.inj same)

/-- The table made anew from the bases has every section where it was. -/
theorem hostValue_eq (sidebar : Sidebar) :
    sidebar.hostValue = .table (sidebar.sections.mapValues SidebarSection.hostValue).entries := by
  have atBases : sidebar.toList.map (fun entry => (entry.base, entry.hostValue)) =
      (sidebar.sections.mapValues SidebarSection.hostValue).entries := by
    unfold toList KeyMap.values KeyMap.mapValues
    rw [List.map_map]
    apply List.map_congr_left
    intro entry entry_mem
    have atBase := (sidebar.wellFormed entry entry_mem).1
    simp [atBase]
  rw [hostValue, atBases, KeyMap.ofList_eq_of_ascending]

theorem faithful_hostValue : Value.Faithful hostValue where
  plain := by
    intro sidebar
    rw [hostValue_eq]
    exact SidebarSection.faithful_hostValue.keyMap.plain sidebar.sections
  inj := by
    intro left right same
    rw [hostValue_eq, hostValue_eq] at same
    exact Sidebar.ext (SidebarSection.faithful_hostValue.keyMap.inj same)

end Sidebar

end LocaleSite
