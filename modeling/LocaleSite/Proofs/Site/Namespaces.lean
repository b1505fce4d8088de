import LocaleSite.Proofs.Site.WellFormed
import Mathlib.Data.Set.BooleanAlgebra
import Mathlib.Data.Set.Disjoint
import Mathlib.Order.CompletePartialOrder

/-!
# Namespaces of locales

No path belongs to two locales of a composed site. The checks look at one locale at a time: that a
path lies in the locale's own directory, or for the root locale in no other's. Ids without slashes
keep the directories apart, also where one id begins with another.
-/

namespace LocaleSite

namespace LocaleBlock

/-- All paths of the site that a locale uses, in whatever role. -/
def paths (block : LocaleBlock) : Set String := {path | ∃ role, block.Uses role path}

end LocaleBlock

namespace Site.WellFormed

variable {site : Site}

theorem disjoint_paths_root (wellFormed : site.WellFormed) {root locale : LocaleBlock}
    {key : String} (rootHere : site.root? = some root) (here : site.locale? key = some locale)
    (notRoot : key ≠ LocaleBlock.rootKey) : Disjoint root.paths locale.paths := by
  apply Set.disjoint_left.2
  rintro path ⟨rootRole, rootUses⟩ ⟨role, uses⟩
  exact wellFormed.foreignFree rootHere here notRoot rootUses
    (wellFormed.ownDirectory here notRoot uses)

theorem disjoint_paths_directories (wellFormed : site.WellFormed) {left right : LocaleBlock}
    {leftKey rightKey : String} (leftHere : site.locale? leftKey = some left)
    (rightHere : site.locale? rightKey = some right) (leftNotRoot : leftKey ≠ LocaleBlock.rootKey)
    (rightNotRoot : rightKey ≠ LocaleBlock.rootKey) (different : leftKey ≠ rightKey) :
    Disjoint left.paths right.paths := by
  apply Set.disjoint_left.2
  rintro path ⟨leftRole, leftUses⟩ ⟨rightRole, rightUses⟩
  apply different
  exact Route.Within.unique (wellFormed.slashFree leftHere) (wellFormed.slashFree rightHere)
    (wellFormed.ownDirectory leftHere leftNotRoot leftUses)
    (wellFormed.ownDirectory rightHere rightNotRoot rightUses)

theorem disjoint_paths (wellFormed : site.WellFormed) {left right : LocaleBlock}
    {leftKey rightKey : String} (leftHere : site.locale? leftKey = some left)
    (rightHere : site.locale? rightKey = some right) (different : leftKey ≠ rightKey) :
    Disjoint left.paths right.paths := by
  by_cases leftRoot : leftKey = LocaleBlock.rootKey
  · subst leftRoot
    exact wellFormed.disjoint_paths_root leftHere rightHere different.symm
  · by_cases rightRoot : rightKey = LocaleBlock.rootKey
    · subst rightRoot
      exact (wellFormed.disjoint_paths_root rightHere leftHere different).symm
    · exact wellFormed.disjoint_paths_directories leftHere rightHere leftRoot rightRoot different

end Site.WellFormed

namespace Site

/-- No path is used under two keys of a composed site. -/
theorem disjoint_paths_of_compose {isPattern : String → Bool} {base : BaseConfig}
    {blocks : List LocaleBlock} {site : Site} (composed : compose isPattern base blocks = .ok site)
    {left right : LocaleBlock} {leftKey rightKey : String}
    (leftHere : site.locale? leftKey = some left) (rightHere : site.locale? rightKey = some right)
    (different : leftKey ≠ rightKey) : Disjoint left.paths right.paths :=
  (wellFormed_of_compose composed).disjoint_paths leftHere rightHere different

end Site

/-! ## A site with ids that resemble one another -/

namespace Sidebar

/-- The sidebar of one section. -/
def single (entry : SidebarSection) (fits : entry.WellFormed) : Sidebar :=
  ⟨KeyMap.empty.insert entry.base entry, by
    intro other other_mem
    rcases KeyMap.mem_insertEntry other_mem with rfl | old
    · exact ⟨rfl, fits⟩
    · simp [KeyMap.empty] at old⟩

end Sidebar

namespace LocaleBlock

/-- A locale with a menu and a section of guide pages below the start of its routes. -/
def guide (id : String) (root : Bool) (start : String) (pages : List SidebarItem)
    (fits : SidebarSection.WellFormed ⟨start ++ "/guide/", "Guide", false, pages⟩) :
    LocaleBlock where
  id := id
  root := root
  label := id
  lang := id
  description := ""
  title := none
  nav := ⟨[.group "Guide" [.leaf "Start" (start ++ "/guide/start") none,
    .leaf "Source" "https://example.org/" none] (some (start ++ "/guide/"))]⟩
  sidebar := .single ⟨start ++ "/guide/", "Guide", false, pages⟩ fits
  editLink := none
  footer := none

end LocaleBlock

namespace Site

/-- Settings with a title and nothing else. -/
def guideBase : BaseConfig := { BaseConfig.initial with title := "Guide" }

/-- A root locale and two locales of which one id begins with the other. -/
def guideBlocks : List LocaleBlock :=
  [.guide "zh-tw" false "/zh-tw" [⟨"Start", "start"⟩, ⟨"Next", "next"⟩] ⟨by decide, by decide⟩,
    .guide "en" true "" [⟨"Start", "start"⟩, ⟨"Hints", "hints"⟩] ⟨by decide, by decide⟩,
    .guide "zh" false "/zh" [⟨"Start", "start"⟩] ⟨by decide, by decide⟩]

theorem compose_guideBlocks :
    compose (fun _ => true) guideBase guideBlocks = .ok (publish guideBase guideBlocks) := rfl

theorem disjoint_paths_of_similar_ids :
    ∃ site left right, compose (fun _ => true) guideBase guideBlocks = .ok site ∧
      site.locale? "zh" = some left ∧ site.locale? "zh-tw" = some right ∧
      "/zh/guide/" ∈ left.paths ∧ "/zh-tw/guide/start" ∈ right.paths ∧
      Disjoint left.paths right.paths := by
  have leftHere : (publish guideBase guideBlocks).locale? "zh" = some _ := rfl
  have rightHere : (publish guideBase guideBlocks).locale? "zh-tw" = some _ := rfl
  refine ⟨_, _, _, compose_guideBlocks, leftHere, rightHere, ?_, ?_, ?_⟩
  · exact ⟨.sidebarBase, _, rfl⟩
  · exact ⟨.navLink, ⟨[0, 0], _, _, rfl⟩, by decide⟩
  · exact disjoint_paths_of_compose compose_guideBlocks leftHere rightHere (by decide)

end Site

end LocaleSite
