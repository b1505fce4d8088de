import LocaleSite.Proofs.Route
import LocaleSite.Proofs.Sidebar.Sections
import LocaleSite.Proofs.Text.ByteOrder

/-!
# Adding sections one after the other

A run adds sections to the empty sidebar. Whether a section is added depends on the section and on
the bases of those before it, so the whole run succeeds when every section fits and no two have one
base, in whatever order they come. The sidebar then has all of them, by their bases.
-/

namespace LocaleSite

namespace SidebarSection

/-- A section can be added after some others: its base is a directory that none of them has, and
all its pages have links. -/
structure FitsAfter (earlier : List SidebarSection) (entry : SidebarSection) : Prop where
  isDirectory : ∃ segments : List String,
    (∀ segment ∈ segments, segment ≠ "" ∧ '/' ∉ segment.toList) ∧
      entry.base = Route.directory segments
  fresh : ∀ other ∈ earlier, other.base ≠ entry.base
  linked : ∀ item ∈ entry.items, item.link ≠ ""

theorem fitsAfter_iff {earlier : List SidebarSection} {entry : SidebarSection} :
    entry.FitsAfter earlier ↔ entry.WellFormed ∧ ∀ other ∈ earlier, other.base ≠ entry.base := by
  have wellFormed : entry.WellFormed ↔
      (∃ segments : List String, (∀ segment ∈ segments, segment ≠ "" ∧ '/' ∉ segment.toList) ∧
        entry.base = Route.directory segments) ∧ ∀ item ∈ entry.items, item.link ≠ "" := by
    simp [WellFormed, Route.isRoot_iff]
  rw [wellFormed]
  constructor
  · rintro ⟨isDirectory, fresh, linked⟩
    exact ⟨⟨isDirectory, linked⟩, fresh⟩
  · rintro ⟨⟨isDirectory, linked⟩, fresh⟩
    exact ⟨isDirectory, fresh, linked⟩

end SidebarSection

namespace Sidebar

theorem exists_add_iff {sidebar : Sidebar} {entry : SidebarSection} :
    (∃ result, sidebar.add entry = .ok result) ↔
      entry.WellFormed ∧ sidebar.get? entry.base = none := by
  constructor
  · rintro ⟨result, added⟩
    rcases add_eq_ok_iff.1 added with ⟨fits, free, _⟩
    exact ⟨fits, free⟩
  · rintro ⟨fits, free⟩
    refine ⟨⟨sidebar.sections.insert entry.base entry, ?_⟩, add_eq_ok_iff.2 ⟨fits, free, rfl⟩⟩
    intro other other_mem
    rcases KeyMap.mem_insertEntry other_mem with rfl | old
    · exact ⟨rfl, fits⟩
    · exact sidebar.wellFormed other old

/-- When sections can be added one after the other to a sidebar that is there. -/
theorem exists_foldlM_add_iff {entries : List SidebarSection} {start : Sidebar} :
    (∃ result, entries.foldlM add start = .ok result) ↔
      (∀ entry ∈ entries, entry.WellFormed ∧ start.get? entry.base = none) ∧
        entries.Pairwise fun earlier later => earlier.base ≠ later.base := by
  induction entries generalizing start with
  | nil => simp [pure, Except.pure]
  | cons head rest ih =>
      simp only [List.foldlM_cons, Outcome.bind_eq_ok_iff]
      rw [List.forall_mem_cons, List.pairwise_cons]
      constructor
      · rintro ⟨result, next, added, built⟩
        rcases ih.1 ⟨result, built⟩ with ⟨restFits, restDistinct⟩
        rcases add_eq_ok_iff.1 added with ⟨headFits, headFree, _⟩
        have free : ∀ entry ∈ rest, start.get? entry.base = none ∧ head.base ≠ entry.base := by
          intro entry entry_mem
          have nextFree := (restFits entry entry_mem).2
          rw [get?_of_add added] at nextFree
          split at nextFree
          · cases nextFree
          · rename_i different
            exact ⟨nextFree, different⟩
        refine ⟨⟨⟨headFits, headFree⟩, ?_⟩, ?_, restDistinct⟩
        · intro entry entry_mem
          exact ⟨(restFits entry entry_mem).1, (free entry entry_mem).1⟩
        · intro entry entry_mem
          exact (free entry entry_mem).2
      · rintro ⟨⟨headFits, restFits⟩, different, restDistinct⟩
        rcases exists_add_iff.2 headFits with ⟨next, added⟩
        have nextFits : ∀ entry ∈ rest, entry.WellFormed ∧ next.get? entry.base = none := by
          intro entry entry_mem
          rw [get?_of_add added, if_neg (different entry entry_mem)]
          exact restFits entry entry_mem
        rcases ih.2 ⟨nextFits, restDistinct⟩ with ⟨result, built⟩
        exact ⟨result, next, added, built⟩

/-- A run succeeds when all sections are well formed and no two have one base. -/
theorem exists_ofList_iff {entries : List SidebarSection} :
    (∃ sidebar, ofList entries = .ok sidebar) ↔
      (∀ entry ∈ entries, entry.WellFormed) ∧
        entries.Pairwise fun earlier later => earlier.base ≠ later.base := by
  simp [ofList, exists_foldlM_add_iff, get?_empty]

/-- A section is added to the result of a run when it fits after the sections of the run. -/
theorem exists_add_ofList_iff {earlier : List SidebarSection} {sidebar : Sidebar}
    (built : ofList earlier = .ok sidebar) {entry : SidebarSection} :
    (∃ result, sidebar.add entry = .ok result) ↔ entry.FitsAfter earlier := by
  have free : sidebar.get? entry.base = none ↔ ∀ other ∈ earlier, other.base ≠ entry.base := by
    simp only [Option.eq_none_iff_forall_ne_some, ne_eq, get?_ofList_eq_some_iff built, not_and]
  rw [exists_add_iff, free, SidebarSection.fitsAfter_iff]

/-- The bases of a sidebar ascend by their bytes. -/
theorem pairwise_bytes_keys (sidebar : Sidebar) :
    sidebar.keys.Pairwise fun earlier later => Text.bytes earlier < Text.bytes later := by
  apply List.pairwise_map.2
  apply sidebar.sections.ascending.imp
  intro earlier later before
  exact Text.bytes_lt_iff.2 before

/-- The sidebar has the sections, each at its base and once, and nothing else; it lists them by the
bytes of their bases. -/
structure Arranges (sidebar : Sidebar) (entries : List SidebarSection) : Prop where
  perm : sidebar.toList.Perm entries
  get?_iff : ∀ base entry, sidebar.get? base = some entry ↔ entry ∈ entries ∧ entry.base = base
  keys_eq : sidebar.keys = sidebar.toList.map (·.base)
  ascending : sidebar.keys.Pairwise fun earlier later => Text.bytes earlier < Text.bytes later

theorem arranges_of_ofList {entries : List SidebarSection} {sidebar : Sidebar}
    (built : ofList entries = .ok sidebar) : sidebar.Arranges entries where
  perm := by
    have nodup : sidebar.toList.Nodup := by
      apply List.Nodup.of_map (·.base)
      rw [← sidebar.keys_eq_map_base]
      exact sidebar.sections.ascending.nodup_keys
    have entriesNodup : entries.Nodup := by
      apply (exists_ofList_iff.1 ⟨sidebar, built⟩).2.imp
      rintro earlier later different rfl
      exact different rfl
    apply (List.perm_ext_iff_of_nodup nodup entriesNodup).2
    intro entry
    simp [mem_toList_iff, get?_ofList_eq_some_iff built]
  get?_iff _ _ := get?_ofList_eq_some_iff built
  keys_eq := sidebar.keys_eq_map_base
  ascending := sidebar.pairwise_bytes_keys

/-- Sections in another order make the same sidebar. -/
theorem ofList_ok_of_perm {entries others : List SidebarSection} (perm : others.Perm entries)
    {sidebar : Sidebar} (built : ofList entries = .ok sidebar) : ofList others = .ok sidebar := by
  rcases exists_ofList_iff.1 ⟨sidebar, built⟩ with ⟨fit, distinct⟩
  have otherDistinct := (perm.pairwise_iff fun different => different.symm).2 distinct
  rcases exists_ofList_iff.2 ⟨fun entry entry_mem => fit entry (perm.mem_iff.1 entry_mem),
    otherDistinct⟩ with ⟨other, otherBuilt⟩
  have same : other = sidebar := by
    apply eq_of_get?_iff
    intro base entry
    rw [get?_ofList_eq_some_iff otherBuilt, get?_ofList_eq_some_iff built, perm.mem_iff]
  rw [otherBuilt, same]

/-- In a run, a section is added just when it fits after those before it. A run of sections that
all fit, no two with one base, gives the sidebar that arranges them, and so does every other order
of these sections. -/
theorem runs_arrange :
    (∀ {earlier : List SidebarSection} {sidebar}, ofList earlier = .ok sidebar → ∀ entry,
      (∃ result, sidebar.add entry = .ok result) ↔ entry.FitsAfter earlier) ∧
    (∀ entries : List SidebarSection, (∃ sidebar, ofList entries = .ok sidebar) ↔
      (∀ entry ∈ entries, entry.FitsAfter []) ∧
        entries.Pairwise fun earlier later => earlier.base ≠ later.base) ∧
    ∀ {entries : List SidebarSection} {sidebar}, ofList entries = .ok sidebar →
      sidebar.Arranges entries ∧ ∀ others, others.Perm entries → ofList others = .ok sidebar := by
  refine ⟨?_, ?_, ?_⟩
  · intro earlier sidebar built entry
    exact exists_add_ofList_iff built
  · intro entries
    simp [exists_ofList_iff, SidebarSection.fitsAfter_iff]
  · intro entries sidebar built
    exact ⟨arranges_of_ofList built, fun others perm => ofList_ok_of_perm perm built⟩

/-- Bases of which one lies in the directory of another and one is the top of the site. -/
def nestedSections : List SidebarSection :=
  [⟨"/zh/guide/", "Guide", true, [⟨"Start", "start"⟩, ⟨"Begin", "start"⟩]⟩,
    ⟨"/zh/", "Chinese", false, []⟩, ⟨"/", "Home", false, [⟨"News", "news"⟩]⟩]

theorem runs_arrange_nestedSections :
    ∃ sidebar, ofList nestedSections = .ok sidebar ∧ sidebar.keys = ["/", "/zh/", "/zh/guide/"] ∧
      sidebar.Arranges nestedSections ∧ nestedSections.reverse.Perm nestedSections ∧
      ofList nestedSections.reverse = .ok sidebar ∧
      ((∃ result, sidebar.add ⟨"/zh", "Chinese", false, []⟩ = .ok result) ↔
        SidebarSection.FitsAfter nestedSections ⟨"/zh", "Chinese", false, []⟩) := by
  have built : ofList nestedSections = .ok _ := rfl
  rcases runs_arrange.2.2 built with ⟨arranges, anyOrder⟩
  exact ⟨_, built, by decide, arranges, List.reverse_perm _, anyOrder _ (List.reverse_perm _),
    runs_arrange.1 built _⟩

end Sidebar

end LocaleSite
