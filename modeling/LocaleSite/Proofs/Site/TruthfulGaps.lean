import LocaleSite.Proofs.Site.PageGaps

/-!
# What the message of a gap says

A gap comes from comparing one locale with the root locale. Its message says more, that no other
locale of the site lists the page, and is false where a third locale lists it too. The messages are
all true just when every page is listed by all locales or by at most one, which always holds of a
site with two.
-/

namespace LocaleSite

namespace Site

/-- The base at which the locale with a key has what the root locale has at a base. -/
def counterpart (key base : String) : String :=
  if key = LocaleBlock.rootKey then base else "/" ++ key ++ base

/-- The locale with a key lists a page at its counterpart of a base of the root locale. -/
def ListsAt (site : Site) (key base page : String) : Prop :=
  ∃ locale, site.locale? key = some locale ∧ locale.sidebar.Lists (counterpart key base) page

@[simp]
theorem counterpart_rootKey (base : String) : counterpart LocaleBlock.rootKey base = base :=
  if_pos rfl

theorem counterpart_of_ne {key : String} (notRoot : key ≠ LocaleBlock.rootKey) (base : String) :
    counterpart key base = "/" ++ key ++ base := if_neg notRoot

theorem counterpart_injective (key : String) : Function.Injective (counterpart key) := by
  intro left right same
  by_cases atRoot : key = LocaleBlock.rootKey
  · subst atRoot
    simpa using same
  · rw [counterpart_of_ne atRoot, counterpart_of_ne atRoot] at same
    rw [← rootBase_append key left, same, rootBase_append]

variable {site : Site}

theorem listsAt_iff {key base page : String} {locale : LocaleBlock}
    (here : site.locale? key = some locale) :
    site.ListsAt key base page ↔ locale.sidebar.Lists (counterpart key base) page := by
  simp [ListsAt, here]

theorem listsAt_rootKey_iff {base page : String} {root : LocaleBlock}
    (rootHere : site.root? = some root) :
    site.ListsAt LocaleBlock.rootKey base page ↔ root.sidebar.Lists base page := by
  rw [listsAt_iff rootHere, counterpart_rootKey]

theorem listsAt_of_mem_pages {key base page : String} {locale : LocaleBlock}
    (here : site.locale? key = some locale)
    (page_mem : page ∈ locale.sidebar.pages (counterpart key base)) :
    site.ListsAt key base page := ⟨locale, here, Sidebar.mem_pages_iff.1 page_mem⟩

theorem ListsAt.mem_keys {key base page : String} (listed : site.ListsAt key base page) :
    key ∈ site.locales.keys := by
  rcases listed with ⟨locale, here, _⟩
  exact KeyMap.mem_keys_iff.2 ⟨locale, here⟩

/-- Every page is listed by all locales of a site or by at most one. -/
def ListedByAllOrOne (site : Site) : Prop :=
  ∀ base page, (∀ key locale, site.locale? key = some locale → site.ListsAt key base page) ∨
    ∀ key other, site.ListsAt key base page → site.ListsAt other base page → key = other

theorem listedByAllOrOne_of_size_le_two (atMostTwo : site.locales.size ≤ 2) :
    site.ListedByAllOrOne := by
  intro base page
  by_contra neither
  simp only [not_or, not_forall] at neither
  rcases neither with ⟨⟨third, locale, here, missing⟩, key, other, listed, otherListed, different⟩
  have third_mem := KeyMap.mem_keys_iff.2 ⟨locale, here⟩
  have nodup : [key, other, third].Nodup := by
    have notThird : key ≠ third := fun same => missing (same ▸ listed)
    have otherNotThird : other ≠ third := fun same => missing (same ▸ otherListed)
    simp [different, notThird, otherNotThird]
  have subset : [key, other, third] ⊆ site.locales.keys := by
    simp [listed.mem_keys, otherListed.mem_keys, third_mem]
  have three : 3 ≤ site.locales.keys.length := (List.subperm_of_subset nodup subset).length_le
  rw [KeyMap.keys, List.length_map] at three
  exact absurd (three.trans atMostTwo) (by decide)

end Site

/-- What the message of a gap says of a site: the locale that it names lists the page, and no other
locale lists it in the counterpart of the section. -/
def PageGap.TrueOf (site : Site) (gap : PageGap) : Prop :=
  ∃ base, gap.base = Site.counterpart gap.onlyIn base ∧ site.ListsAt gap.onlyIn base gap.page ∧
    ∀ key, key ≠ gap.onlyIn → ¬site.ListsAt key base gap.page

theorem PageGap.trueOf_mk_iff {site : Site} {key base page : String} :
    TrueOf site ⟨Site.counterpart key base, page, key⟩ ↔
      site.ListsAt key base page ∧ ∀ other, other ≠ key → ¬site.ListsAt other base page := by
  constructor
  · rintro ⟨_, same, truth⟩
    rw [Site.counterpart_injective key same]
    exact truth
  · intro truth
    exact ⟨base, rfl, truth⟩

theorem PageGap.not_trueOf {site : Site} {key other base page : String}
    (listed : site.ListsAt other base page) (different : other ≠ key) :
    ¬TrueOf site ⟨Site.counterpart key base, page, key⟩ := by
  intro truth
  exact (trueOf_mk_iff.1 truth).2 other different listed

/-- What is compared for a gap: of two locales, one of them the root, the one that the gap names
lists the page and the other does not. -/
structure PageGap.Compares (site : Site) (gap : PageGap) (base other : String) : Prop where
  base_eq : gap.base = Site.counterpart gap.onlyIn base
  listed : site.ListsAt gap.onlyIn base gap.page
  present : ∃ locale, site.locale? other = some locale
  missing : ¬site.ListsAt other base gap.page
  oneRoot : other = LocaleBlock.rootKey ↔ gap.onlyIn ≠ LocaleBlock.rootKey

namespace Site.WellFormed

variable {site : Site}

theorem mem_pageGaps_iff_compares (wellFormed : site.WellFormed) {gap : PageGap} :
    gap ∈ site.pageGaps ↔ ∃ base other, gap.Compares site base other := by
  rcases wellFormed.rooted with ⟨root, rootHere⟩
  rw [wellFormed.mem_pageGaps_iff rootHere]
  constructor
  · rintro ⟨key, locale, notRoot, here, ⟨only, listed, base, same, missing⟩ |
      ⟨only, listed, missing⟩⟩
    · rw [← counterpart_of_ne notRoot] at same
      refine ⟨base, LocaleBlock.rootKey, ?_, ?_, ⟨root, rootHere⟩, ?_, ?_⟩
      · rw [only, same]
      · rw [only, listsAt_iff here, ← same]
        exact listed
      · rw [listsAt_rootKey_iff rootHere]
        exact missing
      · simp [only, notRoot]
    · rw [← counterpart_of_ne notRoot] at missing
      refine ⟨gap.base, key, ?_, ?_, ⟨locale, here⟩, ?_, ?_⟩
      · rw [only, counterpart_rootKey]
      · rw [only, listsAt_rootKey_iff rootHere]
        exact listed
      · rw [listsAt_iff here]
        exact missing
      · simp [only, notRoot]
  · rintro ⟨base, other, same, listed, ⟨locale, here⟩, missing, oneRoot⟩
    by_cases atRoot : other = LocaleBlock.rootKey
    · have notRoot := oneRoot.1 atRoot
      rw [atRoot, listsAt_rootKey_iff rootHere] at missing
      rcases listed with ⟨owner, ownerHere, listed⟩
      rw [← same] at listed
      rw [counterpart_of_ne notRoot] at same
      exact ⟨gap.onlyIn, owner, notRoot, ownerHere, .inl ⟨rfl, listed, base, same, missing⟩⟩
    · have only : gap.onlyIn = LocaleBlock.rootKey := by
        by_contra notRoot
        exact atRoot (oneRoot.2 notRoot)
      rw [only, counterpart_rootKey] at same
      rw [only, listsAt_rootKey_iff rootHere, ← same] at listed
      rw [listsAt_iff here, counterpart_of_ne atRoot, ← same] at missing
      exact ⟨other, locale, atRoot, here, .inr ⟨only, listed, missing⟩⟩

/-- Where all messages are true, what one of two compared locales lacks is listed by the other one
alone. -/
theorem eq_of_listsAt (wellFormed : site.WellFormed)
    (allTrue : ∀ gap ∈ site.pageGaps, gap.TrueOf site) {owner lacking base page : String}
    {locale : LocaleBlock} (owns : site.ListsAt owner base page)
    (here : site.locale? lacking = some locale) (lacks : ¬site.ListsAt lacking base page)
    (oneRoot : lacking = LocaleBlock.rootKey ↔ owner ≠ LocaleBlock.rootKey) {key : String}
    (listed : site.ListsAt key base page) : key = owner := by
  have gap_mem : ⟨counterpart owner base, page, owner⟩ ∈ site.pageGaps :=
    wellFormed.mem_pageGaps_iff_compares.2
      ⟨base, lacking, rfl, owns, ⟨locale, here⟩, lacks, oneRoot⟩
  by_contra different
  exact PageGap.not_trueOf listed different (allTrue _ gap_mem)

theorem trueOf_pageGaps_iff (wellFormed : site.WellFormed) :
    (∀ gap ∈ site.pageGaps, gap.TrueOf site) ↔ site.ListedByAllOrOne := by
  constructor
  · intro allTrue base page
    -- A page listed by two locales and not by a third makes one gap with a false message.
    by_contra neither
    simp only [not_or, not_forall] at neither
    rcases neither with ⟨⟨third, locale, here, missing⟩, key, other, listed, otherListed, different⟩
    rcases wellFormed.rooted with ⟨root, rootHere⟩
    by_cases rootLists : site.ListsAt LocaleBlock.rootKey base page
    · have notRoot : third ≠ LocaleBlock.rootKey := fun same => missing (same ▸ rootLists)
      have oneRoot : third = LocaleBlock.rootKey ↔ LocaleBlock.rootKey ≠ LocaleBlock.rootKey := by
        simp [notRoot]
      have isRoot := wellFormed.eq_of_listsAt allTrue rootLists here missing oneRoot listed
      have otherIsRoot :=
        wellFormed.eq_of_listsAt allTrue rootLists here missing oneRoot otherListed
      exact different (isRoot.trans otherIsRoot.symm)
    · have notRoot : key ≠ LocaleBlock.rootKey := fun same => rootLists (same ▸ listed)
      have isKey := wellFormed.eq_of_listsAt allTrue listed rootHere rootLists (by simp [notRoot])
        otherListed
      exact different isKey.symm
  · intro shared gap gap_mem
    rcases wellFormed.mem_pageGaps_iff_compares.1 gap_mem with
      ⟨base, other, same, listed, ⟨locale, here⟩, missing, _⟩
    refine ⟨base, same, listed, ?_⟩
    intro key different otherListed
    rcases shared base gap.page with byAll | byOne
    · exact missing (byAll other locale here)
    · exact different (byOne key gap.onlyIn otherListed listed)

end Site.WellFormed

namespace Site

/-- The gaps of a composed site are what the comparisons with the root locale find. Their messages
are all true just when every page is listed by all locales or by at most one, as in every site
with at most two. -/
theorem trueOf_pageGaps_iff_of_compose {isPattern : String → Bool} {base : BaseConfig}
    {blocks : List LocaleBlock} {site : Site}
    (composed : compose isPattern base blocks = .ok site) :
    (∀ gap, gap ∈ site.pageGaps ↔ ∃ base other, gap.Compares site base other) ∧
      ((∀ gap ∈ site.pageGaps, gap.TrueOf site) ↔ site.ListedByAllOrOne) ∧
      (site.locales.size ≤ 2 → ∀ gap ∈ site.pageGaps, gap.TrueOf site) := by
  have wellFormed := wellFormed_of_compose composed
  refine ⟨fun _ => wellFormed.mem_pageGaps_iff_compares, wellFormed.trueOf_pageGaps_iff, ?_⟩
  intro atMostTwo
  exact wellFormed.trueOf_pageGaps_iff.2 (listedByAllOrOne_of_size_le_two atMostTwo)

theorem trueOf_pageGaps_of_two_locales :
    ∃ site, compose (fun _ => true) guideBase (guideBlocks.drop 1) = .ok site ∧
      site.locales.size ≤ 2 ∧ ⟨"/guide/", "hints", "root"⟩ ∈ site.pageGaps ∧
      PageGap.TrueOf site ⟨"/guide/", "hints", "root"⟩ := by
  have composed : compose (fun _ => true) guideBase (guideBlocks.drop 1) = .ok _ := rfl
  rcases trueOf_pageGaps_iff_of_compose composed with ⟨_, _, ofTwo⟩
  exact ⟨_, composed, by decide, by decide, ofTwo (by decide) _ (by decide)⟩

/-- Three locales, of which the last lists what each of the two others has alone of the two. -/
def partlySharedBlocks : List LocaleBlock :=
  [.guide "en" true "" [⟨"Hints", "hints"⟩, ⟨"Start", "start"⟩] ⟨by decide, by decide⟩,
    .guide "de" false "/de" [⟨"Start", "start"⟩, ⟨"News", "news"⟩] ⟨by decide, by decide⟩,
    .guide "zh" false "/zh" [⟨"Start", "start"⟩, ⟨"Hints", "hints"⟩, ⟨"News", "news"⟩]
      ⟨by decide, by decide⟩]

/-- Not one of the gaps has a true message, whichever of the locales it names. -/
theorem pageGaps_of_partlyShared :
    ∃ site, compose (fun _ => true) guideBase partlySharedBlocks = .ok site ∧
      site.pageGaps = [⟨"/de/guide/", "news", "de"⟩, ⟨"/guide/", "hints", "root"⟩,
        ⟨"/zh/guide/", "news", "zh"⟩] ∧
      ∀ gap ∈ site.pageGaps, ¬gap.TrueOf site := by
  refine ⟨publish guideBase partlySharedBlocks, rfl, by decide, ?_⟩
  have hintsInChinese : ListsAt (publish guideBase partlySharedBlocks) "zh" "/guide/" "hints" :=
    listsAt_of_mem_pages rfl (by decide)
  have newsInChinese : ListsAt (publish guideBase partlySharedBlocks) "zh" "/guide/" "news" :=
    listsAt_of_mem_pages rfl (by decide)
  have newsInGerman : ListsAt (publish guideBase partlySharedBlocks) "de" "/guide/" "news" :=
    listsAt_of_mem_pages rfl (by decide)
  have gaps_eq : (publish guideBase partlySharedBlocks).pageGaps =
      [⟨counterpart "de" "/guide/", "news", "de"⟩, ⟨counterpart "root" "/guide/", "hints", "root"⟩,
        ⟨counterpart "zh" "/guide/", "news", "zh"⟩] := by decide
  rw [gaps_eq]
  simp only [List.forall_mem_cons]
  refine ⟨?_, ?_, ?_, List.forall_mem_nil _⟩
  · exact PageGap.not_trueOf newsInChinese (by decide)
  · exact PageGap.not_trueOf hintsInChinese (by decide)
  · exact PageGap.not_trueOf newsInGerman (by decide)

end Site

end LocaleSite
