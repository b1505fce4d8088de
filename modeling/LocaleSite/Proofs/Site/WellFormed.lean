import LocaleSite.Proofs.Site.Acceptance

/-!
# Composed sites

`Site.WellFormed` collects what holds of every composed site, whatever it was made from. Theorems
about composed sites rest on it and not on how a site is composed.
-/

namespace LocaleSite

namespace Site

/-- The root locale stands under its key and every other locale under its own id, which is also
the directory of its paths. -/
structure WellFormed (site : Site) : Prop where
  rooted : ∃ root, site.root? = some root
  root_iff : ∀ {key locale}, site.locale? key = some locale →
    (locale.root = true ↔ key = LocaleBlock.rootKey)
  id_eq : ∀ {key locale}, site.locale? key = some locale → key ≠ LocaleBlock.rootKey →
    locale.id = key
  slashFree : ∀ {key locale}, site.locale? key = some locale → '/' ∉ key.toList
  ownDirectory : ∀ {key locale}, site.locale? key = some locale → key ≠ LocaleBlock.rootKey →
    ∀ {role path}, locale.Uses role path → Route.Within key path
  foreignFree : ∀ {key locale root}, site.root? = some root → site.locale? key = some locale →
    key ≠ LocaleBlock.rootKey → ∀ {role path}, root.Uses role path → ¬Route.Within key path

end Site

namespace LocaleBlock

@[simp]
theorem uses_inherit {base : BaseConfig} {block : LocaleBlock} {role : PathRole} {path : String} :
    (block.inherit base).Uses role path ↔ block.Uses role path := by
  cases role <;> rfl

theorem key_of_root {block : LocaleBlock} (isRoot : block.root = true) : block.key = rootKey :=
  if_pos isRoot

theorem key_of_not_root {block : LocaleBlock} (isOther : block.root = false) :
    block.key = block.id := by
  simp [key, isOther]

theorem root_eq_false {block : LocaleBlock} (notRoot : block.key ≠ rootKey) :
    block.root = false := by
  apply Bool.eq_false_iff.2
  intro isRoot
  exact notRoot (key_of_root isRoot)

end LocaleBlock

namespace Composable

variable {isPattern : String → Bool} {base : BaseConfig} {blocks : List LocaleBlock}

theorem root_iff_key (composable : Composable isPattern base blocks) {block : LocaleBlock}
    (block_mem : block ∈ blocks) : block.root = true ↔ block.key = LocaleBlock.rootKey := by
  constructor
  · exact LocaleBlock.key_of_root
  · intro atRoot
    by_contra notRoot
    have isOther := Bool.eq_false_iff.2 notRoot
    rw [LocaleBlock.key_of_not_root isOther] at atRoot
    exact composable.unreserved block block_mem isOther atRoot

theorem wellFormed (composable : Composable isPattern base blocks) :
    (Site.publish base blocks).WellFormed where
  rooted := by
    rcases composable.exists_root with ⟨root, root_mem, isRoot⟩
    exact ⟨root.inherit base, composable.locale?_publish_eq_some_iff.2
      ⟨root, root_mem, (LocaleBlock.key_of_root isRoot).symm, rfl⟩⟩
  root_iff := by
    intro key locale here
    rcases composable.locale?_publish_eq_some_iff.1 here with ⟨block, block_mem, rfl, rfl⟩
    change block.root = true ↔ _
    exact composable.root_iff_key block_mem
  id_eq := by
    intro key locale here notRoot
    rcases composable.locale?_publish_eq_some_iff.1 here with ⟨block, block_mem, rfl, rfl⟩
    have isOther := LocaleBlock.root_eq_false notRoot
    exact (LocaleBlock.key_of_not_root isOther).symm
  slashFree := by
    intro key locale here slash
    rcases composable.locale?_publish_eq_some_iff.1 here with ⟨block, block_mem, rfl, rfl⟩
    unfold LocaleBlock.key at slash
    split at slash
    · simp [LocaleBlock.rootKey] at slash
    · exact ((composable.segments block block_mem).2 _ slash).1 rfl
  ownDirectory := by
    intro key locale here notRoot role path uses
    rcases composable.locale?_publish_eq_some_iff.1 here with ⟨block, block_mem, rfl, rfl⟩
    have isOther := LocaleBlock.root_eq_false notRoot
    rw [LocaleBlock.key_of_not_root isOther]
    exact composable.ownDirectory block block_mem isOther role path
      (LocaleBlock.uses_inherit.1 uses)
  foreignFree := by
    intro key locale root rootHere here notRoot role path uses
    rcases composable.locale?_publish_eq_some_iff.1 rootHere with ⟨rootBlock, root_mem, atRoot, rfl⟩
    rcases composable.locale?_publish_eq_some_iff.1 here with ⟨block, block_mem, rfl, rfl⟩
    have isOther := LocaleBlock.root_eq_false notRoot
    rw [LocaleBlock.key_of_not_root isOther]
    exact composable.foreignFree rootBlock root_mem
      ((composable.root_iff_key root_mem).2 atRoot.symm) block block_mem isOther role path
      (LocaleBlock.uses_inherit.1 uses)

end Composable

namespace Site

theorem wellFormed_of_compose {isPattern : String → Bool} {base : BaseConfig}
    {blocks : List LocaleBlock} {site : Site}
    (composed : compose isPattern base blocks = .ok site) : site.WellFormed := by
  rcases compose_eq_ok_iff.1 composed with ⟨composable, rfl⟩
  exact composable.wellFormed

end Site

end LocaleSite
