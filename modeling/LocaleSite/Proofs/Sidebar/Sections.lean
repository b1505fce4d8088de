import LocaleSite.Proofs.KeyMap
import LocaleSite.Proofs.Outcome
import LocaleSite.Sidebar

/-!
# Sections of a sidebar

A section is added when its base is a free route root and its pages have links. A sidebar made
from a list of sections holds these sections, each at its base, and nothing else.
-/

namespace LocaleSite

namespace Sidebar

theorem get?_empty (base : String) : empty.get? base = none := rfl

theorem base_of_get? {sidebar : Sidebar} {base : String} {entry : SidebarSection}
    (here : sidebar.get? base = some entry) : entry.base = base :=
  (sidebar.wellFormed _ (KeyMap.get?_eq_some_iff.1 here)).1

/-- Two sidebars that have the same sections at the same bases are equal. -/
theorem eq_of_get?_iff {left right : Sidebar}
    (same : ∀ base entry, left.get? base = some entry ↔ right.get? base = some entry) :
    left = right :=
  Sidebar.ext (KeyMap.eq_of_get?_iff same)

/-- The listed sections are those at some base, which is their own. -/
theorem mem_toList_iff {sidebar : Sidebar} {entry : SidebarSection} :
    entry ∈ sidebar.toList ↔ sidebar.get? entry.base = some entry := by
  unfold toList KeyMap.values
  rw [List.mem_map]
  constructor
  · rintro ⟨⟨base, found⟩, here, rfl⟩
    have base_eq := (sidebar.wellFormed _ here).1
    simp only at base_eq ⊢
    rw [base_eq]
    exact KeyMap.get?_eq_some_iff.2 here
  · intro here
    exact ⟨(entry.base, entry), KeyMap.get?_eq_some_iff.1 here, rfl⟩

/-- The keys are the bases of the listed sections. -/
theorem keys_eq_map_base (sidebar : Sidebar) : sidebar.keys = sidebar.toList.map (·.base) := by
  unfold keys toList KeyMap.keys KeyMap.values
  rw [List.map_map]
  apply List.map_congr_left
  intro entry entry_mem
  exact (sidebar.wellFormed entry entry_mem).1.symm

/-- When a section is added, and what the sidebar then holds. -/
theorem add_eq_ok_iff {sidebar result : Sidebar} {entry : SidebarSection} :
    sidebar.add entry = .ok result ↔
      entry.WellFormed ∧ sidebar.get? entry.base = none ∧
        result.sections = sidebar.sections.insert entry.base entry := by
  rw [add]
  split
  · rename_i isRoot
    by_cases taken : sidebar.sections.contains entry.base = true
    · have known : sidebar.get? entry.base ≠ none := by
        rwa [← Option.isSome_iff_ne_none]
      simp [taken, known]
    · have free : sidebar.get? entry.base = none := by
        simpa [KeyMap.contains, Sidebar.get?] using taken
      simp only [taken, Bool.false_eq_true, if_false]
      split
      · rename_i item unlinked
        have unfit : ¬entry.WellFormed := by
          intro wellFormed
          have linked := wellFormed.2 item (List.mem_of_find?_eq_some unlinked)
          have empty := List.find?_some unlinked
          simp [linked] at empty
        simp [unfit]
      · rename_i unlinked
        have fit : entry.WellFormed := by
          refine ⟨isRoot, fun item item_mem => ?_⟩
          simpa using List.find?_eq_none.1 unlinked item item_mem
        simp only [fit, free, true_and, Except.ok.injEq]
        rw [Sidebar.ext_iff]
        exact eq_comm
  · rename_i notRoot
    have unfit : ¬entry.WellFormed := fun wellFormed => notRoot wellFormed.1
    simp [unfit]

theorem get?_of_add {sidebar result : Sidebar} {entry : SidebarSection}
    (added : sidebar.add entry = .ok result) (base : String) :
    result.get? base = if entry.base = base then some entry else sidebar.get? base := by
  rw [get?, (add_eq_ok_iff.1 added).2.2, KeyMap.get?_insert]
  rfl

/-- What a sidebar holds after some sections are added to one that is there. -/
theorem get?_eq_some_iff_of_foldlM {entries : List SidebarSection} {start result : Sidebar}
    (built : entries.foldlM add start = .ok result) {base : String} {entry : SidebarSection} :
    result.get? base = some entry ↔
      (entry ∈ entries ∧ entry.base = base) ∨ start.get? base = some entry := by
  induction entries generalizing start with
  | nil =>
      cases built
      simp
  | cons head rest ih =>
      rw [List.foldlM_cons] at built
      cases added : start.add head with
      | error error => simp [added, bind, Except.bind] at built
      | ok next =>
          have later : rest.foldlM add next = .ok result := by
            simpa [added, bind, Except.bind] using built
          rw [ih later, get?_of_add added]
          have free := (add_eq_ok_iff.1 added).2.1
          by_cases here : head.base = base
          · subst here
            simp only [if_true, free, Option.some.injEq, List.mem_cons, reduceCtorEq, or_false]
            constructor
            · rintro (⟨entry_mem, same⟩ | rfl)
              · exact ⟨.inr entry_mem, same⟩
              · exact ⟨.inl rfl, rfl⟩
            · rintro ⟨rfl | entry_mem, same⟩
              · exact .inr rfl
              · exact .inl ⟨entry_mem, same⟩
          · have notHead : entry.base = base → entry ≠ head := by
              rintro same rfl
              exact here same
            rw [if_neg here, List.mem_cons]
            refine or_congr_left (and_congr_left fun same => ?_)
            simp [notHead same]

/-- A sidebar made from sections holds these, each at its base. -/
theorem get?_ofList_eq_some_iff {entries : List SidebarSection} {sidebar : Sidebar}
    (built : ofList entries = .ok sidebar) {base : String} {entry : SidebarSection} :
    sidebar.get? base = some entry ↔ entry ∈ entries ∧ entry.base = base := by
  rw [get?_eq_some_iff_of_foldlM built, get?_empty]
  simp

end Sidebar

end LocaleSite
