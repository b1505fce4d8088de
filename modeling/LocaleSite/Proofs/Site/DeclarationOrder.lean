import LocaleSite.Proofs.Site.Built

/-!
# Order of declaration

What a site is composed of does not depend on the order in which its locales are declared. Which
locales go together is a matter of all pairs and each single one of them, and the site holds each
locale under its key.
-/

namespace LocaleSite

variable {isPattern : String → Bool} {base : BaseConfig}

theorem Composable.of_perm {left right : List LocaleBlock} (perm : left.Perm right)
    (composable : Composable isPattern base left) : Composable isPattern base right where
  baseValid := composable.baseValid
  nonempty := fun empty => composable.nonempty (empty ▸ perm).eq_nil
  segments := fun block block_mem => composable.segments block (perm.mem_iff.2 block_mem)
  unreserved := fun block block_mem => composable.unreserved block (perm.mem_iff.2 block_mem)
  distinct := (perm.pairwise_iff fun different => different.symm).1 composable.distinct
  oneRoot := by rw [← perm.countP_eq, composable.oneRoot]
  navValid := fun block block_mem => composable.navValid block (perm.mem_iff.2 block_mem)
  ownDirectory := fun block block_mem => composable.ownDirectory block (perm.mem_iff.2 block_mem)
  foreignFree := fun block block_mem isRoot other other_mem =>
    composable.foreignFree block (perm.mem_iff.2 block_mem) isRoot other (perm.mem_iff.2 other_mem)

theorem Publishes.of_perm {site : Site} {left right : List LocaleBlock} (perm : left.Perm right)
    (publishes : Publishes site base left) : Publishes site base right where
  base_eq := publishes.base_eq
  locale_iff := by
    intro key locale
    simp only [publishes.locale_iff, perm.mem_iff]
  size_eq := by rw [publishes.size_eq, perm.length_eq]

namespace Site

/-- Locales in another order make the same site. -/
theorem compose_ok_of_perm {left right : List LocaleBlock} (perm : left.Perm right) {site : Site}
    (composed : compose isPattern base left = .ok site) :
    compose isPattern base right = .ok site := by
  rcases compose_eq_ok_iff.1 composed with ⟨composable, rfl⟩
  have other := composable.of_perm perm
  refine compose_eq_ok_iff.2 ⟨other, ?_⟩
  exact (composable.publishes.of_perm perm).unique other.publishes

/-- Labels in another order build the same locales in that order. -/
theorem Built.of_perm {date : Date} {left right : List LocaleLabels} (perm : left.Perm right)
    {blocks : List LocaleBlock} (built : Built isPattern date left blocks) :
    ∃ others, Built isPattern date right others ∧ blocks.Perm others := by
  rcases List.perm_comp_forall₂ perm.symm built with ⟨others, builtOthers, othersPerm⟩
  exact ⟨others, builtOthers, othersPerm.symm⟩

theorem composeLabels_eq_ok_iff {date : Date} {labels : List LocaleLabels} {site : Site} :
    composeLabels isPattern base labels date = .ok site ↔
      ∃ blocks, Built isPattern date labels blocks ∧ compose isPattern base blocks = .ok site := by
  simp only [composeLabels, Outcome.bind_eq_ok_iff, buildLocales_eq_ok_iff]

theorem composeLabels_ok_of_perm {date : Date} {left right : List LocaleLabels}
    (perm : left.Perm right) {site : Site}
    (composed : composeLabels isPattern base left date = .ok site) :
    composeLabels isPattern base right date = .ok site := by
  rcases composeLabels_eq_ok_iff.1 composed with ⟨blocks, built, composedBlocks⟩
  rcases built.of_perm perm with ⟨others, builtOthers, othersPerm⟩
  exact composeLabels_eq_ok_iff.2
    ⟨others, builtOthers, compose_ok_of_perm othersPerm composedBlocks⟩

/-- Locales, and labels at one date, make the same site in whatever order they are declared. -/
theorem compose_perm (isPattern : String → Bool) (base : BaseConfig) :
    (∀ {left right : List LocaleBlock}, left.Perm right → ∀ site,
      compose isPattern base left = .ok site ↔ compose isPattern base right = .ok site) ∧
    ∀ {left right : List LocaleLabels}, left.Perm right → ∀ date site,
      composeLabels isPattern base left date = .ok site ↔
        composeLabels isPattern base right date = .ok site := by
  constructor
  · intro left right perm site
    exact ⟨compose_ok_of_perm perm, compose_ok_of_perm perm.symm⟩
  · intro left right perm date site
    exact ⟨composeLabels_ok_of_perm perm, composeLabels_ok_of_perm perm.symm⟩

theorem compose_perm_reversed :
    (∃ site, compose (fun _ => true) guideBase guideBlocks = .ok site ∧
      compose (fun _ => true) guideBase guideBlocks.reverse = .ok site) ∧
    ∃ site, composeLabels (fun _ => true) guideBase
        [guideLabels "zh" false [] [], guideLabels "en" true [] []] .epoch = .ok site ∧
      composeLabels (fun _ => true) guideBase
        [guideLabels "en" true [] [], guideLabels "zh" false [] []] .epoch = .ok site := by
  have ofLabels : composeLabels (fun _ => true) guideBase
      [guideLabels "zh" false [] [], guideLabels "en" true [] []] .epoch = .ok _ := rfl
  refine ⟨⟨_, compose_guideBlocks, ?_⟩, _, ofLabels, ?_⟩
  · exact ((compose_perm _ _).1 guideBlocks.reverse_perm _).2 compose_guideBlocks
  · exact ((compose_perm _ _).2 (.swap _ _ []) _ _).2 ofLabels

end Site

end LocaleSite
