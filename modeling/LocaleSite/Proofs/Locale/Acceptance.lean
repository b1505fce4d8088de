import LocaleSite.Proofs.Locale.Build
import LocaleSite.Proofs.Nav.Validity
import LocaleSite.Proofs.Sidebar.Runs

/-!
# Labels that make a locale

`LocaleLabels.Buildable` says of labels alone when a locale can be built from them, and
`LocaleLabels.Builds` which locale it is. The bar and the sidebar put different demands on the same
data: a slug may be empty in the bar but not in the sidebar, and it is only through the bases of the
sidebar that the id and the directories have to be names of nested directories.

Two pages of the bar clash when their whole paths are the same text, be their sections the same or
not.
-/

namespace LocaleSite

namespace LocaleLabels

/-- The path of a page of a section, or of the section itself for the empty slug. -/
def target (labels : LocaleLabels) (dir page : String) : String :=
  (if labels.root then "" else "/" ++ labels.id) ++ "/" ++ dir ++ "/" ++ page

/-- Pages of different sections with one path, of which a bar can have only one. -/
example : (default : LocaleLabels).target "guide" "api/start" =
    (default : LocaleLabels).target "guide/api" "start" := rfl

/-- The paths of the pages that the bar leads to, those of the menu first. -/
def targets (labels : LocaleLabels) : List String :=
  (labels.nav.group.pages.map fun page => labels.target labels.nav.group.sectionDir page.page) ++
    labels.nav.links.map fun link => labels.target link.sectionDir link.page

structure Buildable (isPattern : String → Bool) (labels : LocaleLabels) : Prop where
  groupDeclared : labels.Declares labels.nav.group.sectionDir
  linksDeclared : ∀ link ∈ labels.nav.links, labels.Declares link.sectionDir
  groupFilled : labels.nav.group.pages ≠ []
  extraShaped : NavTree.WellShaped ⟨labels.nav.extra⟩
  targetsDiffer : labels.targets.Nodup
  extraDiffer : NavItem.LinksDiffer (NavItem.atIn? labels.nav.extra)
  extraApart : ∀ path, labels.ExtraUses .navLink path → path ∉ labels.targets
  groupPattern : isPattern (labels.target labels.nav.group.sectionDir "") = true
  extraPatterns : ∀ pattern, labels.ExtraUses .activeMatch pattern → isPattern pattern = true
  dirsNested : ∀ entry ∈ labels.sections, Route.IsNested entry.dir
  idNested : labels.root = false → Route.IsNested labels.id
  dirsDiffer : labels.sections.Pairwise fun earlier later => earlier.dir ≠ later.dir
  slugged : ∀ entry ∈ labels.sections, ∀ page ∈ entry.pages, page.page ≠ ""

/-- The dated menu, the links, then the extra entries as they are. -/
def bar (labels : LocaleLabels) (date : Date) : List NavItem :=
  .group (labels.nav.group.text ++ "(" ++ date.toText ++ ")")
      (labels.nav.group.pages.map fun page =>
        .leaf page.text (labels.target labels.nav.group.sectionDir page.page) none)
      (some (labels.target labels.nav.group.sectionDir "")) ::
    (labels.nav.links.map fun link =>
      .leaf link.text (labels.target link.sectionDir link.page) none) ++ labels.nav.extra

def shownSection (labels : LocaleLabels) (entry : SectionLabels) : SidebarSection where
  base := labels.target entry.dir ""
  text := entry.title
  collapsed := entry.collapsed
  items := entry.pages.map fun page => ⟨page.text, page.page⟩

/-- The locale is that of the labels. -/
structure Builds (labels : LocaleLabels) (date : Date) (block : LocaleBlock) : Prop where
  nav_eq : block.nav = ⟨labels.bar date⟩
  sidebar_arranges : block.sidebar.Arranges (labels.sections.map labels.shownSection)
  rest_eq : block = labels.withTrees block.nav block.sidebar

variable {labels : LocaleLabels} {isPattern : String → Bool} {date : Date}

@[simp]
theorem sectionRoot_append (labels : LocaleLabels) (dir page : String) :
    labels.sectionRoot dir ++ page = labels.target dir page := by
  simp only [sectionRoot, routeStart, Route.root, target, String.append_assoc]

theorem sectionRoot_eq (labels : LocaleLabels) (dir : String) :
    labels.sectionRoot dir = labels.target dir "" := by
  rw [← sectionRoot_append, String.append_empty]

theorem target_ne_empty (labels : LocaleLabels) (dir page : String) :
    labels.target dir page ≠ "" := by
  simp [target]

/-! ## The bar -/

theorem wellShaped_navTree_iff :
    (labels.navTree date).WellShaped ↔
      labels.nav.group.pages ≠ [] ∧ NavTree.WellShaped ⟨labels.nav.extra⟩ := by
  simp [NavTree.wellShaped_iff, entries_navTree, groupItem, pageItem, NavItem.isFilled,
    or_imp, forall_and, target_ne_empty]

theorem links_navTree (labels : LocaleLabels) (date : Date) :
    (labels.navTree date).links = labels.targets ++ NavTree.links ⟨labels.nav.extra⟩ := by
  simp [NavTree.links, entries_navTree, groupItem, pageItem, NavItem.link?, targets,
    List.filterMap_cons, List.filterMap_map, Function.comp_def]

theorem activeMatches_navTree (labels : LocaleLabels) (date : Date) :
    (labels.navTree date).activeMatches =
      labels.target labels.nav.group.sectionDir "" ::
        NavTree.activeMatches ⟨labels.nav.extra⟩ := by
  simp [NavTree.activeMatches, entries_navTree, groupItem, pageItem, NavItem.activeMatch,
    List.filterMap_map, Function.comp_def, sectionRoot_eq]

theorem mem_links_extra_iff {path : String} :
    path ∈ NavTree.links ⟨labels.nav.extra⟩ ↔ labels.ExtraUses .navLink path :=
  NavTree.mem_filterMap_entries_iff

theorem mem_activeMatches_extra_iff {pattern : String} :
    pattern ∈ NavTree.activeMatches ⟨labels.nav.extra⟩ ↔ labels.ExtraUses .activeMatch pattern :=
  NavTree.mem_activeMatches_iff

theorem validate_navTree_iff :
    (labels.navTree date).validate isPattern = .ok () ↔
      (labels.nav.group.pages ≠ [] ∧ NavTree.WellShaped ⟨labels.nav.extra⟩) ∧
        (labels.targets.Nodup ∧ NavItem.LinksDiffer (NavItem.atIn? labels.nav.extra) ∧
          ∀ path, labels.ExtraUses .navLink path → path ∉ labels.targets) ∧
        isPattern (labels.target labels.nav.group.sectionDir "") = true ∧
        ∀ pattern, labels.ExtraUses .activeMatch pattern → isPattern pattern = true := by
  have apart : labels.targets.Disjoint (NavTree.links ⟨labels.nav.extra⟩) ↔
      ∀ path, labels.ExtraUses .navLink path → path ∉ labels.targets := by
    simp only [← mem_links_extra_iff]
    exact ⟨fun apart path inExtra inTargets => apart inTargets inExtra,
      fun apart path inTargets inExtra => apart path inExtra inTargets⟩
  rw [NavTree.validate_eq_ok_iff_lists, wellShaped_navTree_iff, links_navTree,
    List.nodup_append', NavTree.nodup_links_iff, apart, activeMatches_navTree]
  simp only [List.forall_mem_cons, mem_activeMatches_extra_iff]
  rfl

/-! ## The sidebar -/

theorem sectionRoot_injective {dir other : String}
    (same : labels.sectionRoot dir = labels.sectionRoot other) : dir = other :=
  Route.root_injective ((String.append_right_inj labels.routeStart).1 same)

theorem isRoot_sectionRoot_iff {dir : String} :
    Route.isRoot (labels.sectionRoot dir) = true ↔
      Route.IsNested dir ∧ (labels.root = false → Route.IsNested labels.id) := by
  cases isRoot : labels.root with
  | true => simp [sectionRoot, routeStart, isRoot, Route.isRoot_root_iff]
  | false =>
      simp only [sectionRoot, routeStart, isRoot, Bool.false_eq_true, if_false, ← Route.root_append,
        Route.isRoot_root_iff, Route.isNested_append_iff, forall_true_left]
      exact and_comm

theorem wellFormed_sidebarSection_iff {entry : SectionLabels} :
    (labels.sidebarSection entry).WellFormed ↔
      (Route.IsNested entry.dir ∧ (labels.root = false → Route.IsNested labels.id)) ∧
        ∀ page ∈ entry.pages, page.page ≠ "" := by
  simp [SidebarSection.WellFormed, sidebarSection, isRoot_sectionRoot_iff]

theorem exists_buildSidebar_iff :
    (∃ sidebar, labels.buildSidebar = .ok sidebar) ↔
      (∀ entry ∈ labels.sections,
        (Route.IsNested entry.dir ∧ (labels.root = false → Route.IsNested labels.id)) ∧
          ∀ page ∈ entry.pages, page.page ≠ "") ∧
        labels.sections.Pairwise fun earlier later => earlier.dir ≠ later.dir := by
  have differ : ∀ {earlier later : SectionLabels},
      (labels.sidebarSection earlier).base ≠ (labels.sidebarSection later).base ↔
        earlier.dir ≠ later.dir :=
    not_congr ⟨sectionRoot_injective, congrArg labels.sectionRoot⟩
  simp only [buildSidebar, Outcome.mapError_eq_ok_iff, Sidebar.exists_ofList_iff,
    List.forall_mem_map, wellFormed_sidebarSection_iff, List.pairwise_map, differ]

/-! ## The locale -/

theorem exists_build_iff :
    (∃ block, labels.build isPattern date = .ok block) ↔ labels.Buildable isPattern := by
  have parts : (∃ block, labels.build isPattern date = .ok block) ↔
      (∃ nav, labels.buildNav isPattern date = .ok nav) ∧
        ∃ sidebar, labels.buildSidebar = .ok sidebar := by
    simp [build_eq_ok_iff]
  simp only [parts, buildNav_eq_ok_iff, exists_buildSidebar_iff]
  constructor
  · rintro ⟨⟨_, groupDeclared, linksDeclared, rfl, valid⟩, fit, dirsDiffer⟩
    rcases validate_navTree_iff.1 valid with
      ⟨⟨groupFilled, extraShaped⟩, ⟨targetsDiffer, extraDiffer, extraApart⟩, groupPattern,
        extraPatterns⟩
    -- The id counts only where there is a section, and that of the menu is one.
    have idNested : labels.root = false → Route.IsNested labels.id := by
      rcases groupDeclared with ⟨entry, entry_mem, _⟩
      exact (fit entry entry_mem).1.2
    exact {
      groupDeclared, linksDeclared, groupFilled, extraShaped, targetsDiffer, extraDiffer,
      extraApart, groupPattern, extraPatterns, idNested, dirsDiffer
      dirsNested := fun entry entry_mem => (fit entry entry_mem).1.1
      slugged := fun entry entry_mem => (fit entry entry_mem).2 }
  · intro buildable
    refine ⟨⟨_, buildable.groupDeclared, buildable.linksDeclared, rfl, ?_⟩, ?_,
      buildable.dirsDiffer⟩
    · exact validate_navTree_iff.2
        ⟨⟨buildable.groupFilled, buildable.extraShaped⟩,
          ⟨buildable.targetsDiffer, buildable.extraDiffer, buildable.extraApart⟩,
          buildable.groupPattern, buildable.extraPatterns⟩
    · intro entry entry_mem
      exact ⟨⟨buildable.dirsNested entry entry_mem, buildable.idNested⟩,
        buildable.slugged entry entry_mem⟩

theorem navTree_eq (labels : LocaleLabels) (date : Date) :
    labels.navTree date = ⟨labels.bar date⟩ := by
  have sameLink : labels.pageItem = fun link =>
      .leaf link.text (labels.target link.sectionDir link.page) none := by
    funext link
    rw [pageItem, sectionRoot_append]
  simp only [navTree, groupItem, groupText, sectionRoot_append, sameLink]
  rw [sectionRoot_eq, bar]

theorem sidebarSection_eq (labels : LocaleLabels) :
    labels.sidebarSection = labels.shownSection := by
  funext entry
  rw [sidebarSection, sectionRoot_eq, shownSection]

theorem builds_of_build {block : LocaleBlock} (built : labels.build isPattern date = .ok block) :
    labels.Builds date block := by
  rcases build_eq_ok_iff.1 built with ⟨nav, sidebar, navBuilt, sidebarBuilt, rfl⟩
  rcases buildNav_eq_ok_iff.1 navBuilt with ⟨_, _, rfl, _⟩
  rw [buildSidebar, Outcome.mapError_eq_ok_iff, sidebarSection_eq] at sidebarBuilt
  exact ⟨labels.navTree_eq date, Sidebar.arranges_of_ofList sidebarBuilt, rfl⟩

/-- Labels and a date tell the locale. -/
theorem Builds.unique {block other : LocaleBlock} (builds : labels.Builds date block)
    (otherBuilds : labels.Builds date other) : block = other := by
  have sameSidebar : block.sidebar = other.sidebar := by
    apply Sidebar.eq_of_get?_iff
    intro base entry
    exact (builds.sidebar_arranges.get?_iff base entry).trans
      (otherBuilds.sidebar_arranges.get?_iff base entry).symm
  rw [builds.rest_eq, otherBuilds.rest_eq, builds.nav_eq, otherBuilds.nav_eq, sameSidebar]

/-- Labels make a locale just when they are buildable, and then it is the one described. -/
theorem build_accepts_iff (isPattern : String → Bool) (labels : LocaleLabels) (date : Date) :
    ((∃ block, labels.build isPattern date = .ok block) ↔ labels.Buildable isPattern) ∧
      ∀ block, labels.build isPattern date = .ok block ↔
        labels.Buildable isPattern ∧ labels.Builds date block := by
  refine ⟨exists_build_iff, fun block => ?_⟩
  constructor
  · intro built
    exact ⟨exists_build_iff.1 ⟨block, built⟩, builds_of_build built⟩
  · rintro ⟨buildable, builds⟩
    rcases exists_build_iff.2 buildable with ⟨other, built⟩
    rw [builds.unique (builds_of_build built), built]

end LocaleLabels

end LocaleSite
