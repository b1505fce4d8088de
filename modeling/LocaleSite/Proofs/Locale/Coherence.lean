import LocaleSite.Labels.Builtin
import LocaleSite.Proofs.Locale.Acceptance

/-!
# The bar and the sidebar of a locale

The bar and the sidebar are made from different parts of the labels and know nothing of each other.
They fit together because both name a section by its directory, and the bar leads to declared
sections only: of a locale that is built, the sidebar has each section that the bar leads to, at the
path that the bar has for it.

The bar is made first and leads to one section at least. So no locale is built without sidebar
sections, though the sidebar by itself would do without.
-/

namespace LocaleSite

namespace LocaleLabels

/-- The sidebar has, at the key, the section of the labels with the directory. -/
structure ShowsAt (labels : LocaleLabels) (sidebar : Sidebar) (dir key : String) : Prop where
  isKey : key ∈ sidebar.keys
  isSection : ∃ part ∈ labels.sections, part.dir = dir ∧
    sidebar.get? key = some (labels.shownSection part)

/-- The bar leads to sections of the sidebar: its first entry to pages of the section that
highlights it, the entries for links to pages of theirs. -/
inductive LeadsInto (labels : LocaleLabels) (sidebar : Sidebar) : NavTree → Prop where
  | intro {text key : String} {children links : List NavItem}
      (highlights : labels.ShowsAt sidebar labels.nav.group.sectionDir key)
      (children_lead : List.Forall₂ (fun page child => child.link? = some (key ++ page.page))
        labels.nav.group.pages children)
      (links_lead : List.Forall₂ (fun link entry => ∃ other,
        labels.ShowsAt sidebar link.sectionDir other ∧ entry.link? = some (other ++ link.page))
        labels.nav.links links) :
      LeadsInto labels sidebar
        ⟨.group text children (some key) :: links ++ labels.nav.extra⟩

variable {labels : LocaleLabels} {isPattern : String → Bool} {date : Date}

/-- A declared section stands in the sidebar, at its route root. -/
theorem Declares.showsAt {dir : String} (declared : labels.Declares dir) {sidebar : Sidebar}
    (built : labels.buildSidebar = .ok sidebar) :
    labels.ShowsAt sidebar dir (labels.sectionRoot dir) := by
  rcases declared with ⟨part, part_mem, rfl⟩
  have here : sidebar.get? (labels.sectionRoot part.dir) = some (labels.shownSection part) := by
    rw [← sidebarSection_eq]
    exact (get?_eq_some_iff_of_buildSidebar built).2 ⟨part, part_mem, rfl, rfl⟩
  exact ⟨KeyMap.mem_keys_iff.2 ⟨_, here⟩, part, part_mem, rfl, here⟩

theorem leadsInto_navTree (groupDeclared : labels.Declares labels.nav.group.sectionDir)
    (linksDeclared : ∀ link ∈ labels.nav.links, labels.Declares link.sectionDir)
    {sidebar : Sidebar} (built : labels.buildSidebar = .ok sidebar) :
    labels.LeadsInto sidebar (labels.navTree date) := by
  apply LeadsInto.intro (groupDeclared.showsAt built)
  · apply List.forall₂_map_right_iff.2
    exact List.forall₂_same.2 fun page _ => rfl
  · apply List.forall₂_map_right_iff.2
    apply List.forall₂_same.2
    intro link link_mem
    exact ⟨_, (linksDeclared link link_mem).showsAt built, rfl⟩

/-- The sidebar of a built locale is not empty, and its bar leads into it. -/
theorem leadsInto_of_build {block : LocaleBlock}
    (built : labels.build isPattern date = .ok block) :
    block.sidebar.isEmpty = false ∧ labels.LeadsInto block.sidebar block.nav := by
  rcases build_eq_ok_iff.1 built with ⟨_, sidebar, navBuilt, sidebarBuilt, rfl⟩
  rcases buildNav_eq_ok_iff.1 navBuilt with ⟨groupDeclared, linksDeclared, rfl, _⟩
  have highlights := groupDeclared.showsAt sidebarBuilt
  exact ⟨KeyMap.isEmpty_eq_false_of_mem_keys highlights.isKey,
    leadsInto_navTree groupDeclared linksDeclared sidebarBuilt⟩

theorem leadsInto_of_build_chinese :
    ∃ block, chinese.build (fun _ => true) .epoch = .ok block ∧
      block.sidebar.keys = ["/zh/user_guide/", "/zh/zedio/"] ∧
      block.sidebar.isEmpty = false ∧ chinese.LeadsInto block.sidebar block.nav := by
  have built : chinese.build (fun _ => true) .epoch = .ok _ := rfl
  exact ⟨_, built, by decide, leadsInto_of_build built⟩

/-- Without sections there is an empty sidebar, but no locale. -/
example : (default : LocaleLabels).buildSidebar.map Sidebar.isEmpty = .ok true ∧
    (default : LocaleLabels).build (fun _ => true) .epoch = .error (.unknownSection "") :=
  ⟨rfl, rfl⟩

end LocaleLabels

end LocaleSite
