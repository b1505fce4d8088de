import LocaleSite.Proofs.Site.PageGaps

/-!
# Sites with one locale less

A locale other than the root can be taken away: the others still go together, each is published as
before, and what is reported under their keys stays the same. Only gaps under the root's key may
go, as these tell what the locale lacked.
-/

namespace LocaleSite

theorem flatMap_filter_of_nil {α β : Type} {parts : α → List β} {keep : α → Bool} {members : List α}
    (nil : ∀ member ∈ members, keep member = false → parts member = []) :
    (members.filter keep).flatMap parts = members.flatMap parts := by
  induction members with
  | nil => rfl
  | cons member rest ih =>
      rcases List.forall_mem_cons.1 nil with ⟨here, later⟩
      cases kept : keep member with
      | true => rw [List.filter_cons_of_pos kept, List.flatMap_cons, List.flatMap_cons, ih later]
      | false => simp [kept, here kept, ih later]

variable {isPattern : String → Bool} {base : BaseConfig} {blocks : List LocaleBlock}

/-- Of locales that go together, any with the root locale among them do. -/
theorem Composable.of_sublist (composable : Composable isPattern base blocks)
    {others : List LocaleBlock} (sublist : others.Sublist blocks)
    (rooted : ∃ block ∈ others, block.root = true) : Composable isPattern base others where
  baseValid := composable.baseValid
  nonempty := by
    rintro rfl
    simp at rooted
  segments block block_mem := composable.segments block (sublist.subset block_mem)
  unreserved block block_mem := composable.unreserved block (sublist.subset block_mem)
  distinct := composable.distinct.sublist sublist
  oneRoot := by
    have atMost := sublist.countP_le (p := (·.root))
    have atLeast := List.countP_pos_iff.2 rooted
    rw [composable.oneRoot] at atMost
    exact Nat.le_antisymm atMost atLeast
  navValid block block_mem := composable.navValid block (sublist.subset block_mem)
  ownDirectory block block_mem := composable.ownDirectory block (sublist.subset block_mem)
  foreignFree root root_mem isRoot other other_mem :=
    composable.foreignFree root (sublist.subset root_mem) isRoot other (sublist.subset other_mem)

namespace Site

/-- The site without the locale under a key. -/
def without (site : Site) (key : String) : Site := { site with locales := site.locales.erase key }

/-- Whether a key is that of a locale of the site besides the root. -/
def isOtherKey (site : Site) (key : String) : Bool :=
  key != LocaleBlock.rootKey && site.locales.contains key

@[simp]
theorem locale?_without (site : Site) (key wanted : String) :
    (site.without key).locale? wanted = if wanted = key then none else site.locale? wanted :=
  site.locales.get?_erase key wanted

/-! ## What is reported of the others -/

theorem onlyIn_of_mem_localeGaps {root sidebar : Sidebar} {key : String} {gap : PageGap}
    (found : gap ∈ sectionGaps root key sidebar ++ missingSections root key sidebar) :
    gap.onlyIn = key ∨ gap.onlyIn = LocaleBlock.rootKey := by
  rcases List.mem_append.1 found with inSections | inMissing
  · rcases List.mem_flatMap.1 inSections with ⟨entry, _, found⟩
    rcases mem_gapsBetween_iff.1 found with ⟨only, _⟩ | ⟨only, _⟩
    · exact .inl only
    · exact .inr only
  · exact .inr (mem_missingSections_iff.1 inMissing).1

/-- A locale is reported only under its own key and under the root's, so a selection of gaps that
takes neither does not see whether the locale is there. -/
theorem filter_pageGaps_without (site : Site) {key : String} (notRoot : key ≠ LocaleBlock.rootKey)
    {select : PageGap → Bool}
    (unselected : ∀ gap : PageGap, gap.onlyIn = key ∨ gap.onlyIn = LocaleBlock.rootKey →
      select gap = false) :
    (site.without key).pageGaps.filter select = site.pageGaps.filter select := by
  have sameRoot : (site.without key).root? = site.root? := by
    rw [root?, locale?_without, if_neg notRoot.symm, root?]
  unfold pageGaps
  rw [sameRoot]
  cases site.root? with
  | none => rfl
  | some root =>
      have others : (site.without key).locales.entries.filter
          (fun entry => entry.1 != LocaleBlock.rootKey) =
            (site.locales.entries.filter fun entry => entry.1 != LocaleBlock.rootKey).filter
              fun entry => entry.1 != key := by
        rw [List.filter_filter, without, KeyMap.erase, List.filter_filter]
        simp only [Bool.and_comm]
      simp only [others, List.filter_flatMap]
      -- The part that is left out holds nothing that is selected.
      apply flatMap_filter_of_nil
      intro entry _ removed
      have here : entry.1 = key := by simpa using removed
      apply List.filter_eq_nil_iff.2
      intro gap found
      rw [← here] at unselected
      simp [unselected gap (onlyIn_of_mem_localeGaps found)]

end Site

theorem Composable.key_ne_of_others {before after : List LocaleBlock} {block : LocaleBlock}
    (composable : Composable isPattern base (before ++ block :: after))
    (isOther : block.root = false) : ∀ other ∈ before ++ after, other.key ≠ block.id := by
  have nodup := composable.nodup_keys
  rw [List.map_map, List.map_append, List.map_cons, List.nodup_middle, List.nodup_cons,
    ← List.map_append] at nodup
  intro other other_mem same
  rw [← LocaleBlock.key_of_not_root isOther] at same
  exact nodup.1 (List.mem_map.2 ⟨other, other_mem, same⟩)

/-- Published without one of them, locales make the site of them all without its key. -/
theorem Composable.publish_without {before after : List LocaleBlock} {block : LocaleBlock}
    (composable : Composable isPattern base (before ++ block :: after))
    (fewer : Composable isPattern base (before ++ after)) (isOther : block.root = false) :
    Site.publish base (before ++ after) =
      (Site.publish base (before ++ block :: after)).without block.id := by
  have fresh := composable.key_ne_of_others isOther
  have sameLocale : ∀ key, (Site.publish base (before ++ after)).locale? key =
      ((Site.publish base (before ++ block :: after)).without block.id).locale? key := by
    intro key
    apply Option.ext
    intro locale
    rw [Site.locale?_without, fewer.locale?_publish_eq_some_iff]
    by_cases removed : key = block.id
    · rw [if_pos removed]
      constructor
      · rintro ⟨other, other_mem, here, _⟩
        exact absurd (here.symm.trans removed) (fresh other other_mem)
      · rintro ⟨⟩
    · rw [if_neg removed, composable.locale?_publish_eq_some_iff]
      simp only [List.perm_middle.mem_iff, List.mem_cons]
      constructor
      · rintro ⟨other, other_mem, here, same⟩
        exact ⟨other, .inr other_mem, here, same⟩
      · rintro ⟨other, rfl | other_mem, here, same⟩
        · exact absurd (here.trans (LocaleBlock.key_of_not_root isOther)) removed
        · exact ⟨other, other_mem, here, same⟩
  exact congrArg (Site.mk base) (KeyMap.ext_get? sameLocale)

namespace Site

/-- Without one of its locales, not the root, a site is composed as before. It is the same at every
other key, and reports the same gaps, in the same order, under the keys of the other locales that
are left. -/
theorem compose_without {before after : List LocaleBlock} {block : LocaleBlock} {site : Site}
    (composed : compose isPattern base (before ++ block :: after) = .ok site)
    (isOther : block.root = false) :
    compose isPattern base (before ++ after) = .ok (site.without block.id) ∧
      (site.without block.id).base = site.base ∧
      (∀ key, (site.without block.id).locale? key =
        if key = block.id then none else site.locale? key) ∧
      (site.without block.id).pageGaps.filter
          (fun gap => (site.without block.id).isOtherKey gap.onlyIn) =
        site.pageGaps.filter fun gap => (site.without block.id).isOtherKey gap.onlyIn := by
  rcases compose_eq_ok_iff.1 composed with ⟨composable, rfl⟩
  have rooted : ∃ root ∈ before ++ after, root.root = true := by
    rcases composable.exists_root with ⟨root, root_mem, isRoot⟩
    rcases List.mem_cons.1 (List.perm_middle.mem_iff.1 root_mem) with rfl | root_mem
    · rw [isOther] at isRoot
      cases isRoot
    · exact ⟨root, root_mem, isRoot⟩
  have sublist : (before ++ after).Sublist (before ++ block :: after) :=
    (List.sublist_cons_self block after).append_left before
  have fewer := composable.of_sublist sublist rooted
  have notRoot : block.id ≠ LocaleBlock.rootKey := composable.unreserved block (by simp) isOther
  refine ⟨?_, rfl, locale?_without _ block.id, ?_⟩
  · exact compose_eq_ok_iff.2 ⟨fewer, (composable.publish_without fewer isOther).symm⟩
  · apply filter_pageGaps_without _ notRoot
    rintro gap (removed | atRoot)
    · simp [isOtherKey, KeyMap.contains, without, removed]
    · simp [isOtherKey, atRoot]

/-- Without its locale `zh` the site has one gap less under the key of the root, and still the one
under the key `zh-tw`. -/
theorem compose_without_zh :
    ∃ before zh site, guideBlocks = before ++ [zh] ∧ zh.id = "zh" ∧ zh.root = false ∧
      compose (fun _ => true) guideBase (before ++ [zh]) = .ok site ∧
      compose (fun _ => true) guideBase (before ++ []) = .ok (site.without "zh") ∧
      (site.without "zh").locales.keys = ["root", "zh-tw"] ∧
      (site.without "zh").pageGaps =
        [⟨"/zh-tw/guide/", "next", "zh-tw"⟩, ⟨"/guide/", "hints", "root"⟩] ∧
      (site.without "zh").pageGaps.filter (fun gap => (site.without "zh").isOtherKey gap.onlyIn) =
        site.pageGaps.filter fun gap => (site.without "zh").isOtherKey gap.onlyIn := by
  have composed : compose (fun _ => true) guideBase (guideBlocks.take 2 ++ [guideBlocks[2]]) =
      .ok (publish guideBase guideBlocks) := compose_guideBlocks
  rcases compose_without composed rfl with ⟨composedRest, _, _, sameGaps⟩
  exact ⟨_, _, _, rfl, rfl, rfl, composed, composedRest, by decide, by decide, sameGaps⟩

end Site

end LocaleSite
