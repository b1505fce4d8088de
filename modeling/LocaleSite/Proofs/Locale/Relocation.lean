import LocaleSite.Labels.Builtin
import LocaleSite.Proofs.Locale.Acceptance

/-!
# A locale below another root

The same labels make a locale at the top of the site or in the directory of their id. Without extra
entries, which are taken as they are, the one is the other with the directory put in front of all
paths. Nothing that is checked can tell them apart but the pattern of the menu, which is a text to
the class of patterns: a path below the directory is a route root when the path at the top is one,
different paths stay different, and the keys of the sidebar keep their order.
-/

namespace LocaleSite

namespace NavItem

mutual

/-- The entry with a text put in front of its links and patterns, at whatever depth. -/
def relocate (start : String) : NavItem → NavItem
  | .leaf text link activeMatch => .leaf text (start ++ link) (activeMatch.map (start ++ ·))
  | .group text items activeMatch =>
      .group text (relocateAll start items) (activeMatch.map (start ++ ·))

def relocateAll (start : String) : List NavItem → List NavItem
  | [] => []
  | item :: rest => relocate start item :: relocateAll start rest

end

theorem relocateAll_eq_map (start : String) (items : List NavItem) :
    relocateAll start items = items.map (relocate start) := by
  induction items with
  | nil => rfl
  | cons item rest ih => rw [relocateAll, ih, List.map_cons]

end NavItem

/-- The bar with a text put in front of all links and patterns. -/
def NavTree.relocate (start : String) (tree : NavTree) : NavTree :=
  ⟨NavItem.relocateAll start tree.items⟩

/-- The section with a text put in front of its base. -/
def SidebarSection.relocate (start : String) (entry : SidebarSection) : SidebarSection :=
  { entry with base := start ++ entry.base }

namespace LocaleLabels

/-- The labels for the top of the site. -/
def atTop (labels : LocaleLabels) : LocaleLabels := { labels with root := true }

/-- The labels for the directory of their id. -/
def inDirectory (labels : LocaleLabels) : LocaleLabels := { labels with root := false }

variable {labels : LocaleLabels} {isPattern : String → Bool} {date : Date}

theorem target_inDirectory (labels : LocaleLabels) (dir page : String) :
    labels.inDirectory.target dir page = "/" ++ labels.id ++ labels.atTop.target dir page := by
  simp [target, inDirectory, atTop, String.append_assoc]

theorem targets_inDirectory (labels : LocaleLabels) :
    labels.inDirectory.targets = labels.atTop.targets.map ("/" ++ labels.id ++ ·) := by
  simp only [targets, target_inDirectory, List.map_append, List.map_map]
  rfl

/-! ## The bar -/

theorem not_extraUses_of_noExtra (noExtra : labels.nav.extra = []) (role : PathRole)
    (path : String) : ¬labels.ExtraUses role path := by
  cases role <;> simp [ExtraUses, noExtra]

theorem validate_navTree_iff_of_noExtra (noExtra : labels.nav.extra = []) :
    (labels.navTree date).validate isPattern = .ok () ↔
      labels.nav.group.pages ≠ [] ∧ labels.targets.Nodup ∧
        isPattern (labels.target labels.nav.group.sectionDir "") = true := by
  have unused := not_extraUses_of_noExtra noExtra
  have wellShaped : NavTree.WellShaped ⟨labels.nav.extra⟩ := by
    rw [noExtra]
    exact NavTree.wellShaped_iff.2 (List.forall_mem_nil _)
  have differ : NavItem.LinksDiffer (NavItem.atIn? labels.nav.extra) := by
    rw [noExtra]
    intro left _ _ _ _ leads
    simp at leads
  simp [validate_navTree_iff, wellShaped, differ, unused]

theorem exists_buildNav_iff :
    (∃ nav, labels.buildNav isPattern date = .ok nav) ↔
      labels.Declares labels.nav.group.sectionDir ∧
        (∀ link ∈ labels.nav.links, labels.Declares link.sectionDir) ∧
        (labels.navTree date).validate isPattern = .ok () := by
  simp [buildNav_eq_ok_iff]

theorem exists_buildNav_inDirectory_iff (noExtra : labels.nav.extra = [])
    (samePattern : isPattern (labels.atTop.target labels.nav.group.sectionDir "") =
      isPattern (labels.inDirectory.target labels.nav.group.sectionDir "")) :
    (∃ nav, labels.inDirectory.buildNav isPattern date = .ok nav) ↔
      ∃ nav, labels.atTop.buildNav isPattern date = .ok nav := by
  have sameDistinct : labels.inDirectory.targets.Nodup ↔ labels.atTop.targets.Nodup := by
    rw [targets_inDirectory, List.nodup_map_iff]
    intro left right same
    exact (String.append_right_inj _).1 same
  have noExtraAtTop : labels.atTop.nav.extra = [] := noExtra
  have noExtraInDirectory : labels.inDirectory.nav.extra = [] := noExtra
  have sameVerdict : (labels.inDirectory.navTree date).validate isPattern = .ok () ↔
      (labels.atTop.navTree date).validate isPattern = .ok () := by
    rw [validate_navTree_iff_of_noExtra noExtraInDirectory,
      validate_navTree_iff_of_noExtra noExtraAtTop, sameDistinct]
    simp only [atTop, inDirectory] at samePattern ⊢
    rw [samePattern]
  rw [exists_buildNav_iff, exists_buildNav_iff, sameVerdict]
  rfl

theorem navTree_inDirectory (noExtra : labels.nav.extra = []) :
    labels.inDirectory.navTree date = (labels.atTop.navTree date).relocate ("/" ++ labels.id) := by
  have noExtraAtTop : labels.atTop.nav.extra = [] := noExtra
  have noExtraInDirectory : labels.inDirectory.nav.extra = [] := noExtra
  simp only [navTree_eq, bar, NavTree.relocate, target_inDirectory, noExtraAtTop, noExtraInDirectory,
    List.append_nil, NavItem.relocateAll_eq_map, List.map_cons, List.map_map, NavItem.relocate,
    Option.map_some, Function.comp_def, Option.map_none]
  rfl

/-! ## The sidebar -/

theorem sidebarSection_inDirectory (labels : LocaleLabels) (entry : SectionLabels) :
    labels.inDirectory.sidebarSection entry =
      (labels.atTop.sidebarSection entry).relocate ("/" ++ labels.id) := by
  simp only [sidebarSection_eq, shownSection, SidebarSection.relocate, target_inDirectory]

theorem exists_buildSidebar_inDirectory_iff (nonempty : labels.id ≠ "")
    (slashFree : '/' ∉ labels.id.toList) :
    (∃ sidebar, labels.inDirectory.buildSidebar = .ok sidebar) ↔
      ∃ sidebar, labels.atTop.buildSidebar = .ok sidebar := by
  have idNested := Route.isNested_segment ⟨nonempty, slashFree⟩
  rw [exists_buildSidebar_iff, exists_buildSidebar_iff]
  simp [atTop, inDirectory, idNested]

theorem sections_inDirectory {sidebar other : Sidebar}
    (built : labels.atTop.buildSidebar = .ok sidebar)
    (otherBuilt : labels.inDirectory.buildSidebar = .ok other) :
    other.sections =
      (sidebar.sections.mapValues (·.relocate ("/" ++ labels.id))).relocate ("/" ++ labels.id) := by
  apply KeyMap.eq_of_get?_iff
  intro key entry
  have here : ∀ {base found}, sidebar.sections.get? base = some found ↔
      ∃ part ∈ labels.sections, labels.atTop.sidebarSection part = found ∧
        labels.atTop.sectionRoot part.dir = base := get?_eq_some_iff_of_buildSidebar built
  have there : other.sections.get? key = some entry ↔
      ∃ part ∈ labels.sections, labels.inDirectory.sidebarSection part = entry ∧
        labels.inDirectory.sectionRoot part.dir = key :=
    get?_eq_some_iff_of_buildSidebar otherBuilt
  simp only [there, KeyMap.get?_relocate_eq_some_iff, KeyMap.get?_mapValues, Option.map_eq_some_iff,
    here, sidebarSection_inDirectory, sectionRoot_eq, target_inDirectory]
  constructor
  · rintro ⟨part, part_mem, rfl, rfl⟩
    exact ⟨_, rfl, _, ⟨part, part_mem, rfl, rfl⟩, rfl⟩
  · rintro ⟨_, rfl, _, ⟨part, part_mem, rfl, rfl⟩, rfl⟩
    exact ⟨part, part_mem, rfl, rfl⟩

/-- The same labels without extra entries make a sidebar at the top of the site just when they do
in the directory of their id, and a bar too if the two patterns of the menu are both accepted or
both refused. What is made in the directory is what is made at the top, relocated. -/
theorem build_inDirectory (isPattern : String → Bool) {labels : LocaleLabels} (date : Date)
    (nonempty : labels.id ≠ "") (slashFree : '/' ∉ labels.id.toList)
    (noExtra : labels.nav.extra = []) :
    ((∃ sidebar, labels.atTop.buildSidebar = .ok sidebar) ↔
      ∃ sidebar, labels.inDirectory.buildSidebar = .ok sidebar) ∧
    (isPattern ("/" ++ labels.nav.group.sectionDir ++ "/") =
        isPattern ("/" ++ labels.id ++ "/" ++ labels.nav.group.sectionDir ++ "/") →
      ((∃ nav, labels.atTop.buildNav isPattern date = .ok nav) ↔
        ∃ nav, labels.inDirectory.buildNav isPattern date = .ok nav)) ∧
    (∀ {nav other}, labels.atTop.buildNav isPattern date = .ok nav →
      labels.inDirectory.buildNav isPattern date = .ok other →
      other = nav.relocate ("/" ++ labels.id)) ∧
    ∀ {sidebar other}, labels.atTop.buildSidebar = .ok sidebar →
      labels.inDirectory.buildSidebar = .ok other →
      other.sections.entries = sidebar.sections.entries.map fun entry =>
        ("/" ++ labels.id ++ entry.1, entry.2.relocate ("/" ++ labels.id)) := by
  refine ⟨(exists_buildSidebar_inDirectory_iff nonempty slashFree).symm, ?_, ?_, ?_⟩
  · intro samePattern
    apply (exists_buildNav_inDirectory_iff noExtra _).symm
    simpa [target, atTop, inDirectory] using samePattern
  · intro nav other built otherBuilt
    rcases buildNav_eq_ok_iff.1 built with ⟨_, _, rfl, _⟩
    rcases buildNav_eq_ok_iff.1 otherBuilt with ⟨_, _, rfl, _⟩
    exact navTree_inDirectory noExtra
  · intro sidebar other built otherBuilt
    rw [sections_inDirectory built otherBuilt]
    exact List.map_map

theorem build_inDirectory_chinese :
    chinese.id ≠ "" ∧ '/' ∉ chinese.id.toList ∧ chinese.nav.extra = [] ∧
    ∃ nav other sidebar otherSidebar,
      chinese.atTop.buildNav (fun _ => true) .epoch = .ok nav ∧
      chinese.inDirectory.buildNav (fun _ => true) .epoch = .ok other ∧
      chinese.atTop.buildSidebar = .ok sidebar ∧
      chinese.inDirectory.buildSidebar = .ok otherSidebar ∧
      other = nav.relocate ("/" ++ chinese.id) ∧
      otherSidebar.sections.entries = sidebar.sections.entries.map fun entry =>
        ("/" ++ chinese.id ++ entry.1, entry.2.relocate ("/" ++ chinese.id)) := by
  have nonempty : chinese.id ≠ "" := by decide
  have slashFree : '/' ∉ chinese.id.toList := by decide
  have relocates := build_inDirectory (fun _ => true) .epoch nonempty slashFree rfl
  have built : chinese.inDirectory.buildSidebar = .ok _ := rfl
  have builtNav : chinese.inDirectory.buildNav (fun _ => true) .epoch = .ok _ := rfl
  rcases relocates.1.2 ⟨_, built⟩ with ⟨sidebar, builtAtTop⟩
  rcases (relocates.2.1 rfl).2 ⟨_, builtNav⟩ with ⟨nav, builtNavAtTop⟩
  exact ⟨nonempty, slashFree, rfl, nav, _, sidebar, _, builtNavAtTop, builtNav, builtAtTop, built,
    relocates.2.2.1 builtNavAtTop builtNav, relocates.2.2.2 builtAtTop built⟩

end LocaleLabels

end LocaleSite
