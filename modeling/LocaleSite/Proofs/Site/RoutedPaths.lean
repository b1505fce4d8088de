import LocaleSite.Proofs.Nav.Steps
import LocaleSite.Proofs.Nav.Verdict
import LocaleSite.Proofs.Site.ExternalLinks
import Mathlib.Algebra.Order.Group.Multiset
import Mathlib.Data.List.Sort

/-!
# The paths of a locale in their order

The paths to be checked are collected by two walks over the bar, one for links and one for
patterns, and from the keys of the sidebar. Each walk meets every entry once, in the order of
positions: what it collects is determined by what stands at which position. Walks over the whole bar
meet what walks over its top-level entries meet, though in another order, as all links come before
all patterns.
-/

namespace LocaleSite

namespace NavTree

/-- The marks of the positions of a bar, depth first, one for each position that has one. -/
inductive DepthFirst (marks : List Nat → String → Prop) : List String → Prop where
  | intro {placed : List (List Nat × String)} (inOrder : placed.Pairwise NavItem.Before)
      (mem_iff : ∀ position mark, (position, mark) ∈ placed ↔ marks position mark) :
      DepthFirst marks (placed.map Prod.snd)

/-- An entry, a leaf or a menu, has the highlight pattern. -/
def PatternAt (tree : NavTree) (position : List Nat) (pattern : String) : Prop :=
  ∃ entry, tree.at? position = some entry ∧ entry.activeMatch = some pattern

variable {marks : List Nat → String → Prop}

/-- In order, the members of a list determine it. -/
theorem DepthFirst.unique {left right : List String} (leftMarks : DepthFirst marks left)
    (rightMarks : DepthFirst marks right) : left = right := by
  rcases leftMarks with ⟨leftInOrder, left_iff⟩
  rcases rightMarks with ⟨rightInOrder, right_iff⟩
  have asymm : Std.Asymm (NavItem.Before (α := String)) := ⟨fun _ _ => List.lt_asymm⟩
  rw [leftInOrder.eq_of_mem_iff rightInOrder]
  rintro ⟨position, mark⟩
  rw [left_iff, right_iff]

/-- Some of the marks, in the order of all. -/
theorem DepthFirst.filter {texts : List String} (depthFirst : DepthFirst marks texts)
    (keep : String → Bool) :
    DepthFirst (fun position mark => marks position mark ∧ keep mark = true)
      (texts.filter keep) := by
  rcases depthFirst with ⟨inOrder, mem_iff⟩
  rw [List.filter_map]
  refine .intro (inOrder.filter _) ?_
  intro position mark
  simp [mem_iff]

theorem depthFirst_links (tree : NavTree) : DepthFirst tree.LinkAt tree.links := by
  rw [links, ← map_snd_selected]
  exact .intro (tree.pairwise_selected NavItem.link?) fun position link => linkAt_iff.symm

theorem depthFirst_activeMatches (tree : NavTree) :
    DepthFirst tree.PatternAt tree.activeMatches := by
  rw [activeMatches, ← map_snd_selected]
  exact .intro (tree.pairwise_selected NavItem.activeMatch) fun position pattern => mem_selected_iff

/-- The links of a bar that stay on the site, depth first. -/
def siteLinks (tree : NavTree) : List String :=
  tree.links.filter fun link => !Route.isExternal link

theorem depthFirst_siteLinks (tree : NavTree) :
    DepthFirst (fun position link => tree.LinkAt position link ∧ ¬Route.Absolute link)
      tree.siteLinks := by
  have stays : ∀ link, (!Route.isExternal link) = true ↔ ¬Route.Absolute link := by
    intro link
    rw [← Route.isExternal_iff, Bool.not_eq_true', Bool.not_eq_true]
  have kept := tree.depthFirst_links.filter fun link => !Route.isExternal link
  simp only [stays] at kept
  exact kept

/-! ## What the entries of a bar contribute -/

/-- What a bar contributes to the paths of its locale. -/
def contribution (tree : NavTree) : Multiset (PathRole × String) :=
  ↑(tree.siteLinks.map (PathRole.navLink, ·)) + ↑(tree.activeMatches.map (PathRole.activeMatch, ·))

theorem contribution_append (front back : NavTree) :
    (front ++ back).contribution = front.contribution + back.contribution := by
  simp only [contribution, siteLinks, links_append, activeMatches_append, List.filter_append,
    List.map_append, ← Multiset.coe_add]
  exact add_add_add_comm _ _ _ _

/-- A bar contributes what its top-level entries do. -/
theorem contribution_eq_sum (items : List NavItem) :
    contribution ⟨items⟩ = (items.map fun item => contribution ⟨[item]⟩).sum := by
  induction items with
  | nil => rfl
  | cons item rest ih =>
      have parted : (⟨item :: rest⟩ : NavTree) = ⟨[item]⟩ ++ ⟨rest⟩ := rfl
      rw [parted, contribution_append, ih, List.map_cons, List.sum_cons]

end NavTree

namespace LocaleBlock

/-- The paths of a locale by their roles, in order: the links that stay on the site and the
patterns, both depth first, then the bases of the sidebar by their bytes. -/
structure ListsPaths (block : LocaleBlock) (links patterns bases : List String) : Prop where
  links_depthFirst : NavTree.DepthFirst
    (fun position link => block.nav.LinkAt position link ∧ ¬Route.Absolute link) links
  patterns_depthFirst : NavTree.DepthFirst block.nav.PatternAt patterns
  bases_ascend : bases.Pairwise fun earlier later => Text.bytes earlier < Text.bytes later
  bases_iff : ∀ base, base ∈ bases ↔ ∃ entry, block.sidebar.get? base = some entry

/-- The locale with one entry of its bar and without sections. -/
def onlyItem (block : LocaleBlock) (item : NavItem) : LocaleBlock :=
  { block with nav := ⟨[item]⟩, sidebar := .empty }

/-- The locale with its sidebar and without a bar. -/
def onlySidebar (block : LocaleBlock) : LocaleBlock := { block with nav := ⟨[]⟩ }

theorem listsPaths (block : LocaleBlock) :
    block.ListsPaths block.nav.siteLinks block.nav.activeMatches block.sidebar.keys where
  links_depthFirst := block.nav.depthFirst_siteLinks
  patterns_depthFirst := block.nav.depthFirst_activeMatches
  bases_ascend := block.sidebar.pairwise_bytes_keys
  bases_iff _ := KeyMap.mem_keys_iff

theorem ListsPaths.unique {block : LocaleBlock} {links patterns bases : List String}
    {otherLinks otherPatterns otherBases : List String}
    (lists : block.ListsPaths links patterns bases)
    (others : block.ListsPaths otherLinks otherPatterns otherBases) :
    links = otherLinks ∧ patterns = otherPatterns ∧ bases = otherBases := by
  have asymm : Std.Asymm fun earlier later => Text.bytes earlier < Text.bytes later :=
    ⟨fun _ _ => List.lt_asymm⟩
  refine ⟨lists.links_depthFirst.unique others.links_depthFirst,
    lists.patterns_depthFirst.unique others.patterns_depthFirst, ?_⟩
  apply lists.bases_ascend.eq_of_mem_iff others.bases_ascend
  intro base
  rw [lists.bases_iff, others.bases_iff]

theorem coe_routedPaths (block : LocaleBlock) :
    (↑block.routedPaths : Multiset (PathRole × String)) =
      block.nav.contribution + ↑(block.sidebar.keys.map (PathRole.sidebarBase, ·)) := by
  simp only [routedPaths, NavTree.contribution, NavTree.siteLinks, Multiset.coe_add]

theorem coe_routedPaths_onlyItem (block : LocaleBlock) (item : NavItem) :
    (↑(block.onlyItem item).routedPaths : Multiset (PathRole × String)) =
      NavTree.contribution ⟨[item]⟩ := by
  rw [coe_routedPaths]
  exact add_zero _

theorem coe_routedPaths_onlySidebar (block : LocaleBlock) :
    (↑block.onlySidebar.routedPaths : Multiset (PathRole × String)) =
      ↑(block.sidebar.keys.map (PathRole.sidebarBase, ·)) := by
  rw [coe_routedPaths]
  exact zero_add _

/-- The paths of a locale are its links that stay on the site, its patterns and its sidebar bases,
each with its role and in this order; the links and the patterns come depth first and once for each
entry, the bases by their bytes. In some order they are the paths of the top-level entries, each
taken by itself, and of the sidebar. -/
theorem routedPaths_eq_iff (block : LocaleBlock) :
    (∀ paths, block.routedPaths.map (fun path => (path.1.name, path.2)) = paths ↔
      ∃ links patterns bases, block.ListsPaths links patterns bases ∧
        paths = links.map ("nav link", ·) ++ patterns.map ("activeMatch", ·) ++
          bases.map ("sidebar base", ·)) ∧
    (↑block.routedPaths : Multiset (PathRole × String)) =
      (block.nav.items.map fun item =>
        (↑(block.onlyItem item).routedPaths : Multiset (PathRole × String))).sum +
        ↑block.onlySidebar.routedPaths := by
  constructor
  · intro paths
    have named : block.routedPaths.map (fun path => (path.1.name, path.2)) =
        block.nav.siteLinks.map ("nav link", ·) ++
          block.nav.activeMatches.map ("activeMatch", ·) ++
          block.sidebar.keys.map ("sidebar base", ·) := by
      simp only [routedPaths, List.map_append, List.map_map]
      rfl
    constructor
    · rintro rfl
      exact ⟨_, _, _, block.listsPaths, named⟩
    · rintro ⟨links, patterns, bases, lists, rfl⟩
      rcases lists.unique block.listsPaths with ⟨rfl, rfl, rfl⟩
      exact named
  · simp only [coe_routedPaths_onlyItem, coe_routedPaths_onlySidebar, ← NavTree.contribution_eq_sum]
    exact block.coe_routedPaths

/-- Links of all menus come before patterns, and the pattern of a menu before those below it. -/
example : { (default : LocaleBlock) with nav := ⟨[
      .group "Docs" [.leaf "Start" "/start" (some "/start"),
        .leaf "Source" "https://example.org/" none] (some "/"),
      .leaf "News" "/news" none]⟩ }.routedPaths =
    [(.navLink, "/start"), (.navLink, "/news"), (.activeMatch, "/"), (.activeMatch, "/start")] := by
  decide

end LocaleBlock

end LocaleSite
