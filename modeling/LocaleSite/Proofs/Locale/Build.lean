import LocaleSite.Proofs.Sidebar.Sections
import LocaleSite.Proofs.Site.Acceptance

/-!
# Built locales

What a locale built from labels consists of: its bar is the dated menu, the links and the extra
entries, and it is valid; its sidebar has the sections of the labels. Every path it uses lies
below a declared section or belongs to an extra entry.
-/

namespace LocaleSite

namespace LocaleLabels

/-- A section with the directory is declared. -/
def Declares (labels : LocaleLabels) (dir : String) : Prop :=
  ∃ entry ∈ labels.sections, entry.dir = dir

/-- The entry for a link, whether or not its section is declared. -/
def pageItem (labels : LocaleLabels) (link : NavLinkLabel) : NavItem :=
  .leaf link.text (labels.sectionRoot link.sectionDir ++ link.page) none

/-- The navigation bar, whether or not it is valid. -/
def navTree (labels : LocaleLabels) (date : Date) : NavTree :=
  ⟨labels.groupItem date (labels.sectionRoot labels.nav.group.sectionDir) ::
    labels.nav.links.map labels.pageItem ++ labels.nav.extra⟩

variable {labels : LocaleLabels} {isPattern : String → Bool} {date : Date}

theorem declaredRoot_eq_ok_iff {dir root : String} :
    labels.declaredRoot dir = .ok root ↔ labels.Declares dir ∧ root = labels.sectionRoot dir := by
  have declared : (labels.sections.any fun entry => entry.dir == dir) = true ↔
      labels.Declares dir := by
    simp [Declares]
  rw [declaredRoot]
  split
  · rename_i here
    simp [declared.1 here, eq_comm]
  · rename_i nowhere
    have undeclared : ¬labels.Declares dir := fun here => nowhere (declared.2 here)
    simp [undeclared]

theorem linkItem_eq_ok_iff {link : NavLinkLabel} {item : NavItem} :
    labels.linkItem link = .ok item ↔
      labels.Declares link.sectionDir ∧ item = labels.pageItem link := by
  rw [linkItem, Outcome.bind_eq_ok_iff]
  simp [declaredRoot_eq_ok_iff, and_assoc, pageItem]

theorem links_eq_ok_iff {links : List NavLinkLabel} {items : List NavItem} :
    links.mapM labels.linkItem = .ok items ↔
      (∀ link ∈ links, labels.Declares link.sectionDir) ∧ items = links.map labels.pageItem := by
  rw [Outcome.mapM_eq_ok_iff]
  simp only [linkItem_eq_ok_iff]
  rw [List.forall₂_and_left]
  refine and_congr_right fun _ => ?_
  have flipped : List.Forall₂ (fun link item => item = labels.pageItem link) links items ↔
      List.Forall₂ Eq (links.map labels.pageItem) items := by
    simp only [List.forall₂_map_left_iff, eq_comm]
  rw [flipped, List.forall₂_eq_eq_eq, eq_comm]

theorem buildNav_eq_ok_iff {tree : NavTree} :
    labels.buildNav isPattern date = .ok tree ↔
      labels.Declares labels.nav.group.sectionDir ∧
        (∀ link ∈ labels.nav.links, labels.Declares link.sectionDir) ∧
        tree = labels.navTree date ∧ tree.validate isPattern = .ok () := by
  simp only [buildNav, Outcome.bind_eq_ok_iff, declaredRoot_eq_ok_iff, links_eq_ok_iff,
    Outcome.mapError_eq_ok_iff, Outcome.pure_eq_ok_iff]
  constructor
  · rintro ⟨_, ⟨declared, rfl⟩, _, ⟨linksDeclared, rfl⟩, _, valid, rfl⟩
    exact ⟨declared, linksDeclared, rfl, valid⟩
  · rintro ⟨declared, linksDeclared, rfl, valid⟩
    exact ⟨_, ⟨declared, rfl⟩, _, ⟨linksDeclared, rfl⟩, (), valid, rfl⟩

theorem declaredRoot_ne_nav {dir : String} {error : NavError} :
    labels.declaredRoot dir ≠ .error (.nav error) := by
  rw [declaredRoot]
  split <;> simp

theorem linkItem_ne_nav {link : NavLinkLabel} {error : NavError} :
    labels.linkItem link ≠ .error (.nav error) := by
  intro failed
  rw [linkItem, Outcome.bind_eq_error_iff] at failed
  rcases failed with undeclared | ⟨_, _, returned⟩
  · exact declaredRoot_ne_nav undeclared
  · cases returned

/-- A bar that leads to declared sections only is at fault when the check says so. -/
theorem buildNav_eq_nav_error_iff {error : NavError} :
    labels.buildNav isPattern date = .error (.nav error) ↔
      labels.Declares labels.nav.group.sectionDir ∧
        (∀ link ∈ labels.nav.links, labels.Declares link.sectionDir) ∧
        (labels.navTree date).validate isPattern = .error error := by
  have noLinkFault : labels.nav.links.mapM labels.linkItem ≠ .error (.nav error) := by
    intro failed
    rcases Outcome.exists_of_mapM_eq_error failed with ⟨_, _, failed⟩
    exact linkItem_ne_nav failed
  simp only [buildNav, Outcome.bind_eq_error_iff, declaredRoot_ne_nav, noLinkFault, false_or,
    declaredRoot_eq_ok_iff, links_eq_ok_iff, Outcome.mapError_eq_error_iff, LocaleError.nav.injEq]
  constructor
  · rintro ⟨_, ⟨declared, rfl⟩, _, ⟨linksDeclared, rfl⟩, ⟨_, failed, rfl⟩ | ⟨_, _, returned⟩⟩
    · exact ⟨declared, linksDeclared, failed⟩
    · cases returned
  · rintro ⟨declared, linksDeclared, failed⟩
    exact ⟨_, ⟨declared, rfl⟩, _, ⟨linksDeclared, rfl⟩, .inl ⟨error, failed, rfl⟩⟩

/-- The locale of the labels with a bar and a sidebar. -/
def withTrees (labels : LocaleLabels) (nav : NavTree) (sidebar : Sidebar) : LocaleBlock where
  id := labels.id
  root := labels.root
  label := labels.label
  lang := labels.lang
  description := labels.description
  title := labels.title
  nav := nav
  sidebar := sidebar
  editLink := labels.editLink
  footer := labels.footer

theorem build_eq_ok_iff {block : LocaleBlock} :
    labels.build isPattern date = .ok block ↔
      ∃ nav sidebar, labels.buildNav isPattern date = .ok nav ∧
        labels.buildSidebar = .ok sidebar ∧ block = labels.withTrees nav sidebar := by
  simp only [build, Outcome.bind_eq_ok_iff, Outcome.pure_eq_ok_iff]
  constructor
  · rintro ⟨nav, navBuilt, sidebar, sidebarBuilt, rfl⟩
    exact ⟨nav, sidebar, navBuilt, sidebarBuilt, rfl⟩
  · rintro ⟨nav, sidebar, navBuilt, sidebarBuilt, rfl⟩
    exact ⟨nav, navBuilt, sidebar, sidebarBuilt, rfl⟩

/-- The sidebar holds the declared sections at their route roots. -/
theorem get?_eq_some_iff_of_buildSidebar {sidebar : Sidebar}
    (built : labels.buildSidebar = .ok sidebar) {base : String} {entry : SidebarSection} :
    sidebar.get? base = some entry ↔
      ∃ part ∈ labels.sections, labels.sidebarSection part = entry ∧
        labels.sectionRoot part.dir = base := by
  rw [buildSidebar, Outcome.mapError_eq_ok_iff] at built
  rw [Sidebar.get?_ofList_eq_some_iff built, List.mem_map]
  constructor
  · rintro ⟨⟨part, part_mem, rfl⟩, same⟩
    exact ⟨part, part_mem, rfl, same⟩
  · rintro ⟨part, part_mem, rfl, same⟩
    exact ⟨⟨part, part_mem, rfl⟩, same⟩

/-! ## Where the paths of a built locale come from -/

/-- The path lies below a declared section. -/
def Covers (labels : LocaleLabels) (path : String) : Prop :=
  ∃ entry ∈ labels.sections, ∃ rest, path = labels.sectionRoot entry.dir ++ rest

/-- An extra entry, at whatever depth, has the path in the role. -/
def ExtraUses (labels : LocaleLabels) : PathRole → String → Prop
  | .navLink, path => ∃ position item,
      NavItem.atIn? labels.nav.extra position = some item ∧ item.link? = some path
  | .activeMatch, path => ∃ position item,
      NavItem.atIn? labels.nav.extra position = some item ∧ item.activeMatch = some path
  | .sidebarBase, _ => False

theorem Declares.covers {dir : String} (declared : labels.Declares dir) (rest : String) :
    labels.Covers (labels.sectionRoot dir ++ rest) := by
  rcases declared with ⟨entry, entry_mem, rfl⟩
  exact ⟨entry, entry_mem, rest, rfl⟩

theorem entries_navTree (labels : LocaleLabels) (date : Date) :
    (labels.navTree date).entries =
      labels.groupItem date (labels.sectionRoot labels.nav.group.sectionDir) ::
        ((labels.nav.group.pages.map fun page =>
            .leaf page.text (labels.sectionRoot labels.nav.group.sectionDir ++ page.page) none) ++
          labels.nav.links.map labels.pageItem ++ NavTree.entries ⟨labels.nav.extra⟩) := by
  simp [NavTree.entries, navTree, NavItem.descendantsOfAll_eq_flatMap, groupItem, pageItem,
    NavItem.descendants, List.flatMap_map, ← List.map_eq_flatMap]

/-- An entry of the bar is an extra one, or its link and its pattern lie below sections. -/
theorem covers_or_extra {entry : NavItem}
    (groupDeclared : labels.Declares labels.nav.group.sectionDir)
    (linksDeclared : ∀ link ∈ labels.nav.links, labels.Declares link.sectionDir)
    (entry_mem : entry ∈ (labels.navTree date).entries) :
    (∀ path, entry.link? = some path ∨ entry.activeMatch = some path → labels.Covers path) ∨
      ∃ position, NavItem.atIn? labels.nav.extra position = some entry := by
  simp only [entries_navTree, List.mem_cons, List.mem_append, List.mem_map] at entry_mem
  rcases entry_mem with rfl | (⟨page, _, rfl⟩ | ⟨link, link_mem, rfl⟩) | inExtra
  · left
    rintro path (isLink | isMatch)
    · cases isLink
    · cases isMatch
      simpa using groupDeclared.covers ""
  · left
    rintro path (isLink | isMatch)
    · cases isLink
      exact groupDeclared.covers page.page
    · cases isMatch
  · left
    rintro path (isLink | isMatch)
    · cases isLink
      exact (linksDeclared link link_mem).covers link.page
    · cases isMatch
  · exact .inr (NavTree.mem_entries_iff.1 inExtra)

/-- Every path of a built locale lies below a section or belongs to an extra entry. -/
theorem covers_or_extraUses {block : LocaleBlock} {role : PathRole} {path : String}
    (built : labels.build isPattern date = .ok block) (uses : block.Uses role path) :
    labels.Covers path ∨ labels.ExtraUses role path := by
  rcases build_eq_ok_iff.1 built with ⟨nav, sidebar, navBuilt, sidebarBuilt, rfl⟩
  rcases buildNav_eq_ok_iff.1 navBuilt with ⟨groupDeclared, linksDeclared, rfl, _⟩
  cases role with
  | navLink =>
      rcases uses with ⟨⟨position, text, activeMatch, leads⟩, _⟩
      have entry_mem := NavTree.mem_entries_iff.2 ⟨position, leads⟩
      rcases covers_or_extra groupDeclared linksDeclared entry_mem with covered | ⟨here, leads⟩
      · exact .inl (covered path (.inl rfl))
      · exact .inr ⟨here, _, leads, rfl⟩
  | activeMatch =>
      rcases uses with ⟨position, entry, leads, has⟩
      have entry_mem := NavTree.mem_entries_iff.2 ⟨position, leads⟩
      rcases covers_or_extra groupDeclared linksDeclared entry_mem with covered | ⟨here, leads⟩
      · exact .inl (covered path (.inr has))
      · exact .inr ⟨here, entry, leads, has⟩
  | sidebarBase =>
      rcases uses with ⟨entry, here⟩
      rcases (get?_eq_some_iff_of_buildSidebar sidebarBuilt).1 here with ⟨part, part_mem, _, rfl⟩
      exact .inl ⟨part, part_mem, "", by simp⟩

end LocaleLabels

end LocaleSite
