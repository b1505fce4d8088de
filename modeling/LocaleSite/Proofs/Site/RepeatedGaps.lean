import LocaleSite.Proofs.Site.PageGaps
import Mathlib.Data.List.Pairwise

/-!
# Gaps that are reported more than once

A gap does not say which locale lacks the page, so a page of the root locale is reported once for
each locale that lacks it. Where a locale lacks the whole section, the page is reported once for
each time the section lists it, and not once as where the locale has the section. No other gap is
repeated, so these two cases are all: `Site.nodup_pageGaps_iff_of_compose`.
-/

namespace LocaleSite

namespace Sidebar

theorem pairwise_bases (sidebar : Sidebar) :
    sidebar.toList.Pairwise fun left right => left.base ≠ right.base := by
  apply List.pairwise_map.1
  rw [← sidebar.keys_eq_map_base]
  exact sidebar.sections.ascending.nodup_keys

theorem nodup_pages (sidebar : Sidebar) (base : String) : (sidebar.pages base).Nodup := by
  unfold pages
  split
  · exact (KeyMap.ofList _).ascending.nodup_keys
  · exact List.nodup_nil

end Sidebar

namespace Site

theorem disjoint_of_pairwise {α β : Type} {parts : α → List β} {members : List α}
    (apart : members.Pairwise (Function.onFun List.Disjoint parts)) {left right : α}
    (left_mem : left ∈ members) (right_mem : right ∈ members) (different : left ≠ right) :
    (parts left).Disjoint (parts right) := by
  have symmetric : Std.Symm (Function.onFun List.Disjoint parts) :=
    ⟨fun _ _ disjoint _ inRight inLeft => disjoint inLeft inRight⟩
  exact apart.forall left_mem right_mem different

variable {root sidebar : Sidebar} {key : String}

theorem nodup_gapsBetween (notRoot : key ≠ LocaleBlock.rootKey) {base counterpart : String}
    {pages rootPages : List String} (nodup : pages.Nodup) (rootNodup : rootPages.Nodup) :
    (gapsBetween key base counterpart pages rootPages).Nodup := by
  have byPage : ∀ base key : String, Function.Injective (PageGap.mk base · key) := by
    intro base key left right same
    exact congrArg PageGap.page same
  apply List.nodup_append.2
  refine ⟨(nodup.filter _).map (byPage _ _), (rootNodup.filter _).map (byPage _ _), ?_⟩
  intro gap gap_mem other other_mem same
  rcases List.mem_map.1 gap_mem with ⟨_, _, rfl⟩
  rcases List.mem_map.1 other_mem with ⟨_, _, rfl⟩
  exact notRoot (congrArg PageGap.onlyIn same)

/-- The walk over a locale's sections reports nothing twice. -/
theorem nodup_sectionGaps (below : BasesBelow key sidebar) (notRoot : key ≠ LocaleBlock.rootKey) :
    (sectionGaps root key sidebar).Nodup := by
  apply List.nodup_flatMap.2
  constructor
  · intro entry _
    exact nodup_gapsBetween notRoot (sidebar.nodup_pages _) (root.nodup_pages _)
  · apply sidebar.pairwise_bases.imp_of_mem
    intro left right left_mem right_mem different gap inLeft inRight
    rcases below _ _ (Sidebar.mem_toList_iff.1 left_mem) with ⟨leftRest, left_eq⟩
    rcases below _ _ (Sidebar.mem_toList_iff.1 right_mem) with ⟨rightRest, right_eq⟩
    rw [mem_gapsBetween_iff, left_eq, rootBase_append] at inLeft
    rw [mem_gapsBetween_iff, right_eq, rootBase_append] at inRight
    rw [left_eq, right_eq] at different
    rcases inLeft with ⟨only, same, _⟩ | ⟨only, same, _⟩
    · rcases inRight with ⟨_, otherSame, _⟩ | ⟨otherOnly, _⟩
      · exact different (same.symm.trans otherSame)
      · exact notRoot (only.symm.trans otherOnly)
    · rcases inRight with ⟨otherOnly, _⟩ | ⟨_, otherSame, _⟩
      · exact notRoot (otherOnly.symm.trans only)
      · exact different (by rw [same.symm.trans otherSame])

/-- The walk over the root's sections repeats what a section that the locale lacks repeats. -/
theorem nodup_missingSections_iff :
    (missingSections root key sidebar).Nodup ↔
      ∀ base entry, root.get? base = some entry → sidebar.get? ("/" ++ key ++ base) = none →
        (entry.items.map (·.link)).Nodup := by
  have ofSection : ∀ entry : SidebarSection,
      (entry.items.map fun item => PageGap.mk entry.base item.link LocaleBlock.rootKey).Nodup ↔
        (entry.items.map (·.link)).Nodup := by
    intro entry
    have byPage : Function.Injective (PageGap.mk entry.base · LocaleBlock.rootKey) :=
      fun left right same => congrArg PageGap.page same
    rw [← List.nodup_map_iff byPage, List.map_map]
    rfl
  unfold missingSections
  rw [List.nodup_flatMap]
  constructor
  · rintro ⟨each, _⟩ base entry here missing
    have base_eq := Sidebar.base_of_get? here
    subst base_eq
    apply (ofSection entry).1
    apply each
    simp [Sidebar.mem_toList_iff, here, missing]
  · intro each
    constructor
    · intro entry entry_mem
      simp only [List.mem_filter, Sidebar.mem_toList_iff, Option.isNone_iff_eq_none] at entry_mem
      exact (ofSection entry).2 (each _ _ entry_mem.1 entry_mem.2)
    · apply (root.pairwise_bases.filter _).imp
      intro left right different gap inLeft inRight
      rcases List.mem_map.1 inLeft with ⟨_, _, rfl⟩
      rcases List.mem_map.1 inRight with ⟨_, _, same⟩
      exact different (congrArg PageGap.base same).symm

/-- What is reported for one locale is repeated only by the walk over the root's sections. -/
theorem nodup_localeGaps_iff (below : BasesBelow key sidebar)
    (notRoot : key ≠ LocaleBlock.rootKey) :
    (sectionGaps root key sidebar ++ missingSections root key sidebar).Nodup ↔
      ∀ base entry, root.get? base = some entry → sidebar.get? ("/" ++ key ++ base) = none →
        (entry.items.map (·.link)).Nodup := by
  have disjoint : (sectionGaps root key sidebar).Disjoint (missingSections root key sidebar) := by
    intro gap inSections inMissing
    rw [mem_sectionGaps_iff below] at inSections
    rcases mem_missingSections_iff.1 inMissing with ⟨otherOnly, _, missing⟩
    rcases inSections with ⟨only, _⟩ | ⟨_, _, present, _⟩
    · exact notRoot (only.symm.trans otherOnly)
    · simp [missing] at present
  rw [List.nodup_append', nodup_missingSections_iff]
  simp only [nodup_sectionGaps below notRoot, disjoint, true_and, and_true]

/-- What is reported for two locales differs, except for the pages that both lack. -/
theorem disjoint_localeGaps_iff {other : Sidebar} {otherKey : String}
    (below : BasesBelow key sidebar) (otherBelow : BasesBelow otherKey other)
    (notRoot : key ≠ LocaleBlock.rootKey) (otherNotRoot : otherKey ≠ LocaleBlock.rootKey)
    (different : key ≠ otherKey) :
    (sectionGaps root key sidebar ++ missingSections root key sidebar).Disjoint
        (sectionGaps root otherKey other ++ missingSections root otherKey other) ↔
      ∀ base page, root.Lists base page → sidebar.Lists ("/" ++ key ++ base) page ∨
        other.Lists ("/" ++ otherKey ++ base) page := by
  constructor
  · intro disjoint base page listed
    by_contra neither
    rw [not_or] at neither
    apply disjoint (a := ⟨base, page, LocaleBlock.rootKey⟩)
    · exact (mem_localeGaps_iff below).2 (.inr ⟨rfl, listed, neither.1⟩)
    · exact (mem_localeGaps_iff otherBelow).2 (.inr ⟨rfl, listed, neither.2⟩)
  · intro shared gap here there
    rcases (mem_localeGaps_iff below).1 here with ⟨only, _⟩ | ⟨only, listed, missing⟩
    · rcases (mem_localeGaps_iff otherBelow).1 there with ⟨otherOnly, _⟩ | ⟨otherOnly, _⟩
      · exact different (only.symm.trans otherOnly)
      · exact notRoot (only.symm.trans otherOnly)
    · rcases (mem_localeGaps_iff otherBelow).1 there with ⟨otherOnly, _⟩ | ⟨_, _, otherMissing⟩
      · exact otherNotRoot (otherOnly.symm.trans only)
      · rcases shared _ _ listed with inSidebar | inOther
        · exact missing inSidebar
        · exact otherMissing inOther

/-- No page of the root locale is reported twice: a section that a locale lacks lists each page
once, and of two locales at most one lacks a page. -/
structure MissedOnce (site : Site) (root : LocaleBlock) : Prop where
  listedOnce : ∀ key locale, key ≠ LocaleBlock.rootKey → site.locale? key = some locale →
    ∀ base entry, root.sidebar.get? base = some entry →
      locale.sidebar.get? ("/" ++ key ++ base) = none → (entry.items.map (·.link)).Nodup
  lackedOnce : ∀ key locale otherKey other, key ≠ LocaleBlock.rootKey →
    otherKey ≠ LocaleBlock.rootKey → key ≠ otherKey →
    site.locale? key = some locale → site.locale? otherKey = some other →
    ∀ base page, root.sidebar.Lists base page →
      locale.sidebar.Lists ("/" ++ key ++ base) page ∨
        other.sidebar.Lists ("/" ++ otherKey ++ base) page

theorem WellFormed.nodup_pageGaps_iff {site : Site} (wellFormed : site.WellFormed)
    {root : LocaleBlock} (rootHere : site.root? = some root) :
    site.pageGaps.Nodup ↔ site.MissedOnce root := by
  have mem_others : ∀ {key locale},
      (key, locale) ∈ site.locales.entries.filter (fun entry => entry.1 != LocaleBlock.rootKey) ↔
        site.locale? key = some locale ∧ key ≠ LocaleBlock.rootKey := by
    intro key locale
    simp [locale?, KeyMap.get?_eq_some_iff]
  unfold pageGaps
  simp only [rootHere]
  rw [List.nodup_flatMap]
  constructor
  · rintro ⟨each, apart⟩
    constructor
    · intro key locale notRoot here
      have below := wellFormed.basesBelow here notRoot
      exact (nodup_localeGaps_iff below notRoot).1 (each _ (mem_others.2 ⟨here, notRoot⟩))
    · intro key locale otherKey other notRoot otherNotRoot different here otherHere
      have below := wellFormed.basesBelow here notRoot
      have otherBelow := wellFormed.basesBelow otherHere otherNotRoot
      apply (disjoint_localeGaps_iff below otherBelow notRoot otherNotRoot different).1
      apply disjoint_of_pairwise apart (mem_others.2 ⟨here, notRoot⟩)
        (mem_others.2 ⟨otherHere, otherNotRoot⟩)
      intro same
      exact different (congrArg Prod.fst same)
  · intro once
    constructor
    · rintro ⟨key, locale⟩ entry_mem
      rcases mem_others.1 entry_mem with ⟨here, notRoot⟩
      have below := wellFormed.basesBelow here notRoot
      exact (nodup_localeGaps_iff below notRoot).2 (once.listedOnce key locale notRoot here)
    · have keysDiffer := List.pairwise_map.1 site.locales.ascending.nodup_keys
      apply (keysDiffer.filter _).imp_of_mem
      rintro ⟨key, locale⟩ ⟨otherKey, other⟩ entry_mem other_mem different
      rcases mem_others.1 entry_mem with ⟨here, notRoot⟩
      rcases mem_others.1 other_mem with ⟨otherHere, otherNotRoot⟩
      have below := wellFormed.basesBelow here notRoot
      have otherBelow := wellFormed.basesBelow otherHere otherNotRoot
      apply (disjoint_localeGaps_iff below otherBelow notRoot otherNotRoot different).2
      exact once.lackedOnce key locale otherKey other notRoot otherNotRoot different here otherHere

/-- The gaps of a composed site are all different just when no page of its root locale is reported
twice. -/
theorem nodup_pageGaps_iff_of_compose {isPattern : String → Bool} {base : BaseConfig}
    {blocks : List LocaleBlock} {site : Site}
    (composed : compose isPattern base blocks = .ok site) :
    ∃ root, site.root? = some root ∧ (site.pageGaps.Nodup ↔ site.MissedOnce root) := by
  have wellFormed := wellFormed_of_compose composed
  rcases wellFormed.rooted with ⟨root, rootHere⟩
  exact ⟨root, rootHere, wellFormed.nodup_pageGaps_iff rootHere⟩

theorem nodup_pageGaps_of_two_locales :
    ∃ site root, compose (fun _ => true) guideBase (guideBlocks.drop 1) = .ok site ∧
      site.root? = some root ∧ site.pageGaps = [⟨"/guide/", "hints", "root"⟩] ∧
      site.MissedOnce root := by
  have composed : compose (fun _ => true) guideBase (guideBlocks.drop 1) = .ok _ := rfl
  rcases nodup_pageGaps_iff_of_compose composed with ⟨root, rootHere, nodup_iff⟩
  exact ⟨_, root, composed, rootHere, by decide, nodup_iff.1 (by decide)⟩

/-- A locale without the section in which the root locale lists a page twice. -/
def repeatedPageBlocks : List LocaleBlock :=
  [.guide "en" true "" [⟨"Start", "start"⟩, ⟨"Begin", "start"⟩] ⟨by decide, by decide⟩,
    { LocaleBlock.guide "zh" false "/zh" [] ⟨by decide, by decide⟩ with sidebar := .empty }]

/-- A gap is reported twice for a page listed twice, and for a page that two locales lack. -/
theorem pageGaps_repeat :
    (∃ site, compose (fun _ => true) guideBase repeatedPageBlocks = .ok site ∧
      site.pageGaps = [⟨"/guide/", "start", "root"⟩, ⟨"/guide/", "start", "root"⟩]) ∧
    ∃ site, compose (fun _ => true) guideBase guideBlocks = .ok site ∧
      ¬site.pageGaps.Nodup := by
  refine ⟨⟨_, rfl, by decide⟩, _, compose_guideBlocks, by decide⟩

end Site

end LocaleSite
