import LocaleSite.Proofs.Site.DeclarationOrder

/-!
# Composing a site once more

A composed site is the composition of its own settings and locales. It keeps ids, bars and paths,
so what made the locales go together still does, and a locale that has inherited a title and a
footer inherits the same ones again, also where the settings have no footer to give.
-/

namespace LocaleSite

namespace LocaleBlock

@[simp]
theorem key_inherit (base : BaseConfig) (block : LocaleBlock) :
    (block.inherit base).key = block.key := rfl

@[simp]
theorem inherit_inherit (base : BaseConfig) (block : LocaleBlock) :
    (block.inherit base).inherit base = block.inherit base := by
  have sameFooter : (block.footer.or base.footer).or base.footer = block.footer.or base.footer := by
    rw [Option.or_assoc, Option.or_self]
  simp [inherit, sameFooter]

end LocaleBlock

variable {isPattern : String → Bool} {base : BaseConfig} {blocks : List LocaleBlock}

namespace Composable

/-- Locales go together just as well once they have inherited from the settings. -/
theorem inherit (composable : Composable isPattern base blocks) :
    Composable isPattern base (blocks.map (·.inherit base)) where
  baseValid := composable.baseValid
  nonempty := by simpa using composable.nonempty
  segments := List.forall_mem_map.2 composable.segments
  unreserved := List.forall_mem_map.2 composable.unreserved
  distinct := List.pairwise_map.2 composable.distinct
  oneRoot := by
    rw [List.countP_map]
    exact composable.oneRoot
  navValid := List.forall_mem_map.2 composable.navValid
  ownDirectory := by
    refine List.forall_mem_map.2 ?_
    intro block block_mem isOther role path uses
    exact composable.ownDirectory block block_mem isOther role path
      (LocaleBlock.uses_inherit.1 uses)
  foreignFree := by
    refine List.forall_mem_map.2 ?_
    intro root root_mem isRoot
    refine List.forall_mem_map.2 ?_
    intro other other_mem isOther role path uses
    exact composable.foreignFree root root_mem isRoot other other_mem isOther role path
      (LocaleBlock.uses_inherit.1 uses)

/-- The locales of the site are those it was made of, with what they inherited. -/
theorem values_publish_perm (composable : Composable isPattern base blocks) :
    (Site.publish base blocks).locales.values.Perm (blocks.map (·.inherit base)) := by
  have entries := (KeyMap.entries_ofList_perm composable.nodup_keys).map Prod.snd
  rw [List.map_map] at entries
  exact entries

end Composable

namespace Site

@[simp]
theorem publish_inherit (base : BaseConfig) (blocks : List LocaleBlock) :
    publish base (blocks.map (·.inherit base)) = publish base blocks := by
  simp [publish, Function.comp_def]

/-- The settings and the locales of a composed site, in the order of the keys or in any other, make
the same site. -/
theorem compose_values_of_compose {site : Site}
    (composed : compose isPattern base blocks = .ok site) {again : List LocaleBlock}
    (perm : again.Perm site.locales.values) :
    compose isPattern site.base again = .ok site := by
  rcases compose_eq_ok_iff.1 composed with ⟨composable, rfl⟩
  have composedAgain : compose isPattern base (blocks.map (·.inherit base)) =
      .ok (publish base blocks) :=
    compose_eq_ok_iff.2 ⟨composable.inherit, (publish_inherit base blocks).symm⟩
  exact compose_ok_of_perm (perm.trans composable.values_publish_perm).symm composedAgain

/-- The settings of this site have no footer, and its locales are declared in another order than
that of their keys. -/
theorem compose_values_of_guideBlocks :
    ∃ site, compose (fun _ => true) guideBase guideBlocks = .ok site ∧
      site.locales.values.map (·.id) = ["en", "zh", "zh-tw"] ∧
      compose (fun _ => true) site.base site.locales.values = .ok site ∧
      site.locales.values.reverse.Perm site.locales.values ∧
      compose (fun _ => true) site.base site.locales.values.reverse = .ok site :=
  ⟨_, compose_guideBlocks, by decide, compose_values_of_compose compose_guideBlocks (.refl _),
    List.reverse_perm _, compose_values_of_compose compose_guideBlocks (List.reverse_perm _)⟩

end Site

end LocaleSite
