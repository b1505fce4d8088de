import LocaleSite.Proofs.Sidebar.Sections
import LocaleSite.Proofs.Site.Namespaces
import LocaleSite.Site.PageGaps

/-!
# The pages that are reported missing

The gaps of a composed site are just the pages that a section lists and its counterpart does not,
in both directions. Two walks find them: one over the sections of a locale, one over the root's
sections. That they cover everything rests on the bases of a locale, which all begin with its
directory, so that each base has one counterpart.
-/

namespace LocaleSite

namespace Sidebar

/-- The sidebar has a section at a base and the section lists a page. -/
def Lists (sidebar : Sidebar) (base page : String) : Prop :=
  ∃ entry, sidebar.get? base = some entry ∧ ∃ item ∈ entry.items, item.link = page

theorem mem_pages_iff {sidebar : Sidebar} {base page : String} :
    page ∈ sidebar.pages base ↔ sidebar.Lists base page := by
  unfold pages Lists
  cases sidebar.get? base with
  | none => simp
  | some entry => simp

end Sidebar

namespace Site

@[simp]
theorem rootBase_append (key rest : String) : rootBase key ("/" ++ key ++ rest) = rest := by
  unfold rootBase
  rw [if_pos (Route.startsWith_iff.2 ⟨rest, rfl⟩)]
  apply String.toList_injective
  simp

theorem mem_gapsBetween_iff {key base counterpart : String} {pages rootPages : List String}
    {gap : PageGap} :
    gap ∈ gapsBetween key base counterpart pages rootPages ↔
      (gap.onlyIn = key ∧ gap.base = base ∧ gap.page ∈ pages ∧ gap.page ∉ rootPages) ∨
      (gap.onlyIn = LocaleBlock.rootKey ∧ gap.base = counterpart ∧ gap.page ∈ rootPages ∧
        gap.page ∉ pages) := by
  rcases gap with ⟨gapBase, page, onlyIn⟩
  simp only [gapsBetween, List.mem_append, List.mem_map, List.mem_filter, List.contains_eq_mem,
    Bool.not_eq_true', decide_eq_false_iff_not, PageGap.mk.injEq]
  constructor
  · rintro (⟨_, ⟨here, missing⟩, rfl, rfl, rfl⟩ | ⟨_, ⟨here, missing⟩, rfl, rfl, rfl⟩)
    · exact .inl ⟨rfl, rfl, here, missing⟩
    · exact .inr ⟨rfl, rfl, here, missing⟩
  · rintro (⟨rfl, rfl, here, missing⟩ | ⟨rfl, rfl, here, missing⟩)
    · exact .inl ⟨page, ⟨here, missing⟩, rfl, rfl, rfl⟩
    · exact .inr ⟨page, ⟨here, missing⟩, rfl, rfl, rfl⟩

/-- Every base of a sidebar continues the directory of a key. -/
def BasesBelow (key : String) (sidebar : Sidebar) : Prop :=
  ∀ base entry, sidebar.get? base = some entry → ∃ rest, base = "/" ++ key ++ rest

/-- The walk over a locale's sections finds the pages that the root lacks, and of the pages that
the locale lacks those at a section that it has. -/
theorem mem_sectionGaps_iff {root sidebar : Sidebar} {key : String}
    (below : BasesBelow key sidebar) {gap : PageGap} :
    gap ∈ sectionGaps root key sidebar ↔
      (gap.onlyIn = key ∧ sidebar.Lists gap.base gap.page ∧
        ∃ rest, gap.base = "/" ++ key ++ rest ∧ ¬root.Lists rest gap.page) ∨
      (gap.onlyIn = LocaleBlock.rootKey ∧ root.Lists gap.base gap.page ∧
        (sidebar.get? ("/" ++ key ++ gap.base)).isSome = true ∧
        ¬sidebar.Lists ("/" ++ key ++ gap.base) gap.page) := by
  unfold sectionGaps
  rw [List.mem_flatMap]
  simp only [mem_gapsBetween_iff, Sidebar.mem_toList_iff, Sidebar.mem_pages_iff]
  constructor
  · rintro ⟨entry, here, found⟩
    rcases below _ _ here with ⟨rest, base_eq⟩
    rw [base_eq, rootBase_append] at found
    rcases found with ⟨only, same, listed, missing⟩ | ⟨only, same, listed, missing⟩
    · rw [← same] at listed
      exact .inl ⟨only, listed, rest, same, missing⟩
    · subst same
      rw [base_eq] at here
      exact .inr ⟨only, listed, by rw [here]; rfl, missing⟩
  · rintro (⟨only, listed, rest, same, missing⟩ | ⟨only, listed, present, missing⟩)
    · rcases listed with ⟨entry, here, item, item_mem, page_eq⟩
      have base_eq := Sidebar.base_of_get? here
      refine ⟨entry, base_eq ▸ here, .inl ⟨only, base_eq.symm, ?_, ?_⟩⟩
      · exact ⟨entry, base_eq ▸ here, item, item_mem, page_eq⟩
      · rw [base_eq, same, rootBase_append]
        exact missing
    · rcases Option.isSome_iff_exists.1 present with ⟨entry, here⟩
      have base_eq := Sidebar.base_of_get? here
      refine ⟨entry, base_eq ▸ here, .inr ⟨only, ?_, ?_, ?_⟩⟩
      · rw [base_eq, rootBase_append]
      · rw [base_eq, rootBase_append]
        exact listed
      · rw [base_eq]
        exact missing

/-- The walk over the root's sections finds the pages of those that the locale does not have. -/
theorem mem_missingSections_iff {root sidebar : Sidebar} {key : String} {gap : PageGap} :
    gap ∈ missingSections root key sidebar ↔
      gap.onlyIn = LocaleBlock.rootKey ∧ root.Lists gap.base gap.page ∧
        sidebar.get? ("/" ++ key ++ gap.base) = none := by
  rcases gap with ⟨base, page, onlyIn⟩
  simp only [missingSections, List.mem_flatMap, List.mem_filter, Sidebar.mem_toList_iff,
    Option.isNone_iff_eq_none, List.mem_map, PageGap.mk.injEq]
  constructor
  · rintro ⟨entry, ⟨here, missing⟩, item, item_mem, rfl, rfl, rfl⟩
    exact ⟨rfl, ⟨entry, here, item, item_mem, rfl⟩, missing⟩
  · rintro ⟨rfl, ⟨entry, here, item, item_mem, rfl⟩, missing⟩
    have base_eq := Sidebar.base_of_get? here
    subst base_eq
    exact ⟨entry, ⟨here, missing⟩, item, item_mem, rfl, rfl, rfl⟩

/-- Both walks together find the difference in both directions. -/
theorem mem_localeGaps_iff {root sidebar : Sidebar} {key : String}
    (below : BasesBelow key sidebar) {gap : PageGap} :
    gap ∈ sectionGaps root key sidebar ++ missingSections root key sidebar ↔
      (gap.onlyIn = key ∧ sidebar.Lists gap.base gap.page ∧
        ∃ rest, gap.base = "/" ++ key ++ rest ∧ ¬root.Lists rest gap.page) ∨
      (gap.onlyIn = LocaleBlock.rootKey ∧ root.Lists gap.base gap.page ∧
        ¬sidebar.Lists ("/" ++ key ++ gap.base) gap.page) := by
  rw [List.mem_append, mem_sectionGaps_iff below, mem_missingSections_iff, or_assoc]
  refine or_congr_right ?_
  constructor
  · rintro (⟨only, listed, _, missing⟩ | ⟨only, listed, missing⟩)
    · exact ⟨only, listed, missing⟩
    · refine ⟨only, listed, ?_⟩
      rintro ⟨entry, here, _⟩
      rw [missing] at here
      cases here
  · rintro ⟨only, listed, missing⟩
    cases here : sidebar.get? ("/" ++ key ++ gap.base) with
    | none => exact .inr ⟨only, listed, rfl⟩
    | some entry => exact .inl ⟨only, listed, rfl, missing⟩

namespace WellFormed

variable {site : Site}

theorem basesBelow (wellFormed : site.WellFormed) {key : String} {locale : LocaleBlock}
    (here : site.locale? key = some locale) (notRoot : key ≠ LocaleBlock.rootKey) :
    BasesBelow key locale.sidebar := by
  intro base entry found
  have uses : locale.Uses .sidebarBase base := ⟨entry, found⟩
  rcases wellFormed.ownDirectory here notRoot uses with ⟨rest, rfl⟩
  exact ⟨"/" ++ rest, by rw [String.append_assoc]⟩

theorem mem_pageGaps_iff (wellFormed : site.WellFormed) {root : LocaleBlock}
    (rootHere : site.root? = some root) {gap : PageGap} :
    gap ∈ site.pageGaps ↔
      ∃ key locale, key ≠ LocaleBlock.rootKey ∧ site.locale? key = some locale ∧
        ((gap.onlyIn = key ∧ locale.sidebar.Lists gap.base gap.page ∧
          ∃ rest, gap.base = "/" ++ key ++ rest ∧ ¬root.sidebar.Lists rest gap.page) ∨
        (gap.onlyIn = LocaleBlock.rootKey ∧ root.sidebar.Lists gap.base gap.page ∧
          ¬locale.sidebar.Lists ("/" ++ key ++ gap.base) gap.page)) := by
  unfold pageGaps
  simp only [rootHere, List.mem_flatMap, List.mem_filter, bne_iff_ne]
  constructor
  · rintro ⟨⟨key, locale⟩, ⟨entry_mem, notRoot⟩, found⟩
    have here := KeyMap.get?_eq_some_iff.2 entry_mem
    have below := wellFormed.basesBelow here notRoot
    exact ⟨key, locale, notRoot, here, (mem_localeGaps_iff below).1 found⟩
  · rintro ⟨key, locale, notRoot, here, found⟩
    have below := wellFormed.basesBelow here notRoot
    exact ⟨(key, locale), ⟨KeyMap.get?_eq_some_iff.1 here, notRoot⟩,
      (mem_localeGaps_iff below).2 found⟩

/-- The gaps under a key other than the root's. -/
theorem mem_pageGaps_key_iff (wellFormed : site.WellFormed) {root : LocaleBlock}
    (rootHere : site.root? = some root) {key base page : String}
    (notRoot : key ≠ LocaleBlock.rootKey) :
    ⟨base, page, key⟩ ∈ site.pageGaps ↔
      ∃ locale, site.locale? key = some locale ∧ locale.sidebar.Lists base page ∧
        ∃ rest, base = "/" ++ key ++ rest ∧ ¬root.sidebar.Lists rest page := by
  rw [wellFormed.mem_pageGaps_iff rootHere]
  constructor
  · rintro ⟨other, locale, _, here, ⟨only, found⟩ | ⟨only, _⟩⟩
    · simp only at only
      subst only
      exact ⟨locale, here, found⟩
    · exact absurd only notRoot
  · rintro ⟨locale, here, found⟩
    exact ⟨key, locale, notRoot, here, .inl ⟨rfl, found⟩⟩

/-- The gaps under the root's key. -/
theorem mem_pageGaps_root_iff (wellFormed : site.WellFormed) {root : LocaleBlock}
    (rootHere : site.root? = some root) {base page : String} :
    ⟨base, page, LocaleBlock.rootKey⟩ ∈ site.pageGaps ↔
      root.sidebar.Lists base page ∧
        ∃ key locale, key ≠ LocaleBlock.rootKey ∧ site.locale? key = some locale ∧
          ¬locale.sidebar.Lists ("/" ++ key ++ base) page := by
  rw [wellFormed.mem_pageGaps_iff rootHere]
  constructor
  · rintro ⟨key, locale, notRoot, here, ⟨only, _⟩ | ⟨_, listed, missing⟩⟩
    · exact absurd only.symm notRoot
    · exact ⟨listed, key, locale, notRoot, here, missing⟩
  · rintro ⟨listed, key, locale, notRoot, here, missing⟩
    exact ⟨key, locale, notRoot, here, .inr ⟨rfl, listed, missing⟩⟩

end WellFormed

/-- The gaps of a composed site are the pages that a locale lists and the root does not, and the
pages that the root lists and some locale does not. Each base of a locale begins with its key. -/
theorem mem_pageGaps_of_compose {isPattern : String → Bool} {base : BaseConfig}
    {blocks : List LocaleBlock} {site : Site}
    (composed : compose isPattern base blocks = .ok site) :
    ∃ root, site.root? = some root ∧
      (∀ key base page, key ≠ LocaleBlock.rootKey →
        (⟨base, page, key⟩ ∈ site.pageGaps ↔
          ∃ locale, site.locale? key = some locale ∧ locale.sidebar.Lists base page ∧
            ∃ rest, base = "/" ++ key ++ rest ∧ ¬root.sidebar.Lists rest page)) ∧
      (∀ base page,
        (⟨base, page, LocaleBlock.rootKey⟩ ∈ site.pageGaps ↔
          root.sidebar.Lists base page ∧
            ∃ key locale, key ≠ LocaleBlock.rootKey ∧ site.locale? key = some locale ∧
              ¬locale.sidebar.Lists ("/" ++ key ++ base) page)) ∧
      ∀ key locale base entry, key ≠ LocaleBlock.rootKey → site.locale? key = some locale →
        locale.sidebar.get? base = some entry →
        Route.startsWith base ("/" ++ key) = true ∧ base = "/" ++ key ++ rootBase key base := by
  have wellFormed := wellFormed_of_compose composed
  rcases wellFormed.rooted with ⟨root, rootHere⟩
  refine ⟨root, rootHere, ?_, ?_, ?_⟩
  · intro key base page notRoot
    exact wellFormed.mem_pageGaps_key_iff rootHere notRoot
  · intro base page
    exact wellFormed.mem_pageGaps_root_iff rootHere
  · intro key locale base entry notRoot here found
    rcases wellFormed.basesBelow here notRoot _ _ found with ⟨rest, rfl⟩
    exact ⟨Route.startsWith_iff.2 ⟨rest, rfl⟩, by rw [rootBase_append]⟩

/-- Each of the two locales besides the root lacks a page of it, and one has a page of its own. -/
theorem mem_pageGaps_guide :
    ∃ site root, compose (fun _ => true) guideBase guideBlocks = .ok site ∧
      site.root? = some root ∧
      (⟨"/zh-tw/guide/", "next", "zh-tw"⟩ ∈ site.pageGaps ↔
        ∃ locale, site.locale? "zh-tw" = some locale ∧
          locale.sidebar.Lists "/zh-tw/guide/" "next" ∧
          ∃ rest, "/zh-tw/guide/" = "/" ++ "zh-tw" ++ rest ∧ ¬root.sidebar.Lists rest "next") ∧
      site.pageGaps = [⟨"/guide/", "hints", "root"⟩, ⟨"/zh-tw/guide/", "next", "zh-tw"⟩,
        ⟨"/guide/", "hints", "root"⟩] := by
  rcases mem_pageGaps_of_compose compose_guideBlocks with ⟨root, rootHere, ofKey, _, _⟩
  exact ⟨_, root, compose_guideBlocks, rootHere, ofKey "zh-tw" "/zh-tw/guide/" "next" (by decide),
    by decide⟩

end Site

end LocaleSite
