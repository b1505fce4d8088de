import LocaleSite.Proofs.KeyMap
import LocaleSite.Proofs.Nav.Validity
import LocaleSite.Proofs.Route
import LocaleSite.Site

/-!
# Which locales go together

`Composable` says of settings and locales, without any order of checks, what makes a site of
them, and `Publishes` what the site then holds. `Site.compose` accepts just what is composable and
publishes it: `Site.compose_accepts_iff`.
-/

namespace LocaleSite

namespace LocaleBlock

/-- The locale uses a path of the site in a role, at whatever depth of its navigation bar. -/
def Uses (block : LocaleBlock) : PathRole → String → Prop
  | .navLink, path =>
      (∃ position text activeMatch,
        block.nav.at? position = some (.leaf text path activeMatch)) ∧
      Route.isExternal path = false
  | .activeMatch, path =>
      ∃ position entry, block.nav.at? position = some entry ∧ entry.activeMatch = some path
  | .sidebarBase, path => ∃ entry, block.sidebar.get? path = some entry

theorem mem_routedPaths_iff {block : LocaleBlock} {role : PathRole} {path : String} :
    (role, path) ∈ block.routedPaths ↔ block.Uses role path := by
  cases role with
  | navLink => simp [routedPaths, Uses, NavTree.mem_links_iff]
  | activeMatch => simp [routedPaths, Uses, NavTree.mem_activeMatches_iff]
  | sidebarBase => simp [routedPaths, Uses, Sidebar.keys, KeyMap.mem_keys_iff, Sidebar.get?]

theorem isSegment_iff {id : String} :
    isSegment id = true ↔ id ≠ "" ∧ ∀ c ∈ id.toList, c ≠ '/' ∧ Text.isBlank c = false := by
  simp [isSegment]

theorem checkPath_eq_ok_iff {block : LocaleBlock} {others : List String}
    {path : PathRole × String} :
    block.checkPath others path = .ok () ↔
      (block.root = false → Route.Within block.id path.2) ∧
        (block.root = true → ∀ other ∈ others, ¬Route.Within other path.2) := by
  unfold checkPath
  cases block.root with
  | false =>
      by_cases inside : Route.Within block.id path.2 <;> simp [inside]
  | true =>
      have clear : (others.find? fun other => Route.isUnder other path.2) = none ↔
          ∀ other ∈ others, ¬Route.Within other path.2 := by
        simp [List.find?_eq_none]
      rw [← clear]
      cases others.find? fun other => Route.isUnder other path.2 <;> simp

/-- A locale passes its checks when its bar is valid and its paths keep to its routes. -/
theorem check_eq_ok_iff {isPattern : String → Bool} {others : List String} {block : LocaleBlock} :
    block.check isPattern others = .ok () ↔
      block.nav.Valid isPattern ∧
        (block.root = false → ∀ role path, block.Uses role path → Route.Within block.id path) ∧
        (block.root = true → ∀ other ∈ others, ∀ role path, block.Uses role path →
          ¬Route.Within other path) := by
  unfold check checkPaths
  rw [Outcome.unit_bind_eq_ok_iff, Outcome.mapError_eq_ok_iff, NavTree.validate_eq_ok_iff,
    Outcome.forM_eq_ok_iff]
  refine and_congr_right fun _ => ?_
  simp only [checkPath_eq_ok_iff, Prod.forall, mem_routedPaths_iff]
  constructor
  · intro each
    exact ⟨fun isOther role path uses => (each role path uses).1 isOther,
      fun isRoot other other_mem role path uses => (each role path uses).2 isRoot other other_mem⟩
  · rintro ⟨own, foreign⟩ role path uses
    exact ⟨fun isOther => own isOther role path uses,
      fun isRoot other other_mem => foreign isRoot other other_mem role path uses⟩

end LocaleBlock

/-- Settings and locales that make a site. -/
structure Composable (isPattern : String → Bool) (base : BaseConfig)
    (blocks : List LocaleBlock) : Prop where
  baseValid : base.validate = .ok ()
  nonempty : blocks ≠ []
  /-- An id is a segment of a path. -/
  segments : ∀ block ∈ blocks,
    block.id ≠ "" ∧ ∀ c ∈ block.id.toList, c ≠ '/' ∧ Text.isBlank c = false
  /-- The key of the root locale is no other locale's id. -/
  unreserved : ∀ block ∈ blocks, block.root = false → block.id ≠ "root"
  distinct : blocks.Pairwise fun earlier later => earlier.id ≠ later.id
  oneRoot : blocks.countP (·.root) = 1
  navValid : ∀ block ∈ blocks, block.nav.Valid isPattern
  /-- A locale other than the root keeps to its own directory. -/
  ownDirectory : ∀ block ∈ blocks, block.root = false →
    ∀ role path, block.Uses role path → Route.Within block.id path
  /-- The root locale keeps out of the directories of the others. -/
  foreignFree : ∀ block ∈ blocks, block.root = true → ∀ other ∈ blocks, other.root = false →
    ∀ role path, block.Uses role path → ¬Route.Within other.id path

/-- The site has the settings and, under its key, each locale with the title and the footer of the
settings where it has none; it has nothing else. -/
structure Publishes (site : Site) (base : BaseConfig) (blocks : List LocaleBlock) : Prop where
  base_eq : site.base = base
  locale_iff : ∀ key locale, site.locale? key = some locale ↔
    ∃ block ∈ blocks, key = (if block.root then "root" else block.id) ∧
      locale = { block with
        title := some (block.title.getD base.title)
        footer := block.footer.or base.footer }
  size_eq : site.locales.size = blocks.length

namespace Site

theorem checkIds_cons_eq_ok_iff {earlier : List String} {block : LocaleBlock}
    {rest : List LocaleBlock} :
    checkIds earlier (block :: rest) = .ok () ↔
      (LocaleBlock.isSegment block.id = true ∧ (block.root = false → block.id ≠ "root") ∧
        block.id ∉ earlier) ∧ checkIds (block.id :: earlier) rest = .ok () := by
  have free : (!block.root && block.id == LocaleBlock.rootKey) = false ↔
      (block.root = false → block.id ≠ "root") := by
    simp [LocaleBlock.rootKey]
  rw [checkIds, ← free]
  by_cases known : block.id ∈ earlier <;>
    cases LocaleBlock.isSegment block.id <;>
    cases (!block.root && block.id == LocaleBlock.rootKey) <;> simp [known]

theorem checkIds_eq_ok_iff {earlier : List String} {blocks : List LocaleBlock} :
    checkIds earlier blocks = .ok () ↔
      (∀ block ∈ blocks, LocaleBlock.isSegment block.id = true) ∧
      (∀ block ∈ blocks, block.root = false → block.id ≠ "root") ∧
      (blocks.Pairwise fun earlier later => earlier.id ≠ later.id) ∧
      ∀ block ∈ blocks, block.id ∉ earlier := by
  induction blocks generalizing earlier with
  | nil => simp [checkIds]
  | cons block rest ih =>
      rw [checkIds_cons_eq_ok_iff, ih]
      simp only [List.forall_mem_cons, List.pairwise_cons]
      simp only [List.mem_cons, not_or]
      constructor
      · rintro ⟨⟨segment, free, fresh⟩, segments, unreserved, distinct, unseen⟩
        refine ⟨⟨segment, segments⟩, ⟨free, unreserved⟩, ⟨?_, distinct⟩, fresh, ?_⟩
        · intro later later_mem same
          exact (unseen later later_mem).1 same.symm
        · intro later later_mem
          exact (unseen later later_mem).2
      · rintro ⟨⟨segment, segments⟩, ⟨free, unreserved⟩, ⟨different, distinct⟩, fresh, unseen⟩
        refine ⟨⟨segment, free, fresh⟩, segments, unreserved, distinct, ?_⟩
        intro later later_mem
        exact ⟨fun same => different later later_mem same.symm, unseen later later_mem⟩

theorem checkRoots_eq_ok_iff {blocks : List LocaleBlock} :
    checkRoots blocks = .ok () ↔ blocks.countP (·.root) = 1 := by
  rw [List.countP_eq_length_filter]
  unfold checkRoots
  generalize blocks.filter (·.root) = roots
  rcases roots with _ | ⟨first, _ | ⟨second, others⟩⟩
  · simp
  · simp
  · simp

theorem checkSet_eq_ok_iff {blocks : List LocaleBlock} :
    checkSet blocks = .ok () ↔
      blocks ≠ [] ∧ checkIds [] blocks = .ok () ∧ checkRoots blocks = .ok () := by
  unfold checkSet
  cases blocks with
  | nil => simp [throw, throwThe, MonadExceptOf.throw, bind, Except.bind]
  | cons block rest =>
      simp only [List.isEmpty_cons, Bool.false_eq_true, if_false, ne_eq, reduceCtorEq,
        not_false_eq_true, true_and]
      exact Outcome.unit_bind_eq_ok_iff

theorem mem_directoryIds_iff {blocks : List LocaleBlock} {id : String} :
    id ∈ directoryIds blocks ↔ ∃ block ∈ blocks, block.root = false ∧ block.id = id := by
  simp [directoryIds, and_assoc]

/-- The site of settings and locales, whether or not they go together. -/
def publish (base : BaseConfig) (blocks : List LocaleBlock) : Site :=
  ⟨base, .ofList (blocks.map fun block => (block.key, block.inherit base))⟩

theorem compose_eq_ok_iff {isPattern : String → Bool} {base : BaseConfig}
    {blocks : List LocaleBlock} {site : Site} :
    compose isPattern base blocks = .ok site ↔
      Composable isPattern base blocks ∧ site = publish base blocks := by
  unfold compose
  rw [Outcome.unit_bind_eq_ok_iff, Outcome.unit_bind_eq_ok_iff, Outcome.unit_bind_eq_ok_iff,
    Outcome.mapError_eq_ok_iff, checkSet_eq_ok_iff, checkIds_eq_ok_iff, checkRoots_eq_ok_iff,
    Outcome.forM_eq_ok_iff]
  have published : (pure (publish base blocks) : Except ComposeError Site) = .ok site ↔
      site = publish base blocks := by
    simp [pure, Except.pure, eq_comm]
  constructor
  · rintro ⟨baseValid, ⟨nonempty, ⟨segments, unreserved, distinct, _⟩, oneRoot⟩, each, result⟩
    refine ⟨⟨baseValid, nonempty, ?_, unreserved, distinct, oneRoot, ?_, ?_, ?_⟩,
      published.1 result⟩
    · intro block block_mem
      exact LocaleBlock.isSegment_iff.1 (segments block block_mem)
    · intro block block_mem
      exact (LocaleBlock.check_eq_ok_iff.1 (each block block_mem)).1
    · intro block block_mem
      exact (LocaleBlock.check_eq_ok_iff.1 (each block block_mem)).2.1
    · intro block block_mem isRoot other other_mem isOther
      exact (LocaleBlock.check_eq_ok_iff.1 (each block block_mem)).2.2 isRoot other.id
        (mem_directoryIds_iff.2 ⟨other, other_mem, isOther, rfl⟩)
  · rintro ⟨composable, result⟩
    refine ⟨composable.baseValid, ⟨composable.nonempty, ⟨?_, composable.unreserved,
      composable.distinct, by simp⟩, composable.oneRoot⟩, ?_, published.2 result⟩
    · intro block block_mem
      exact LocaleBlock.isSegment_iff.2 (composable.segments block block_mem)
    · intro block block_mem
      refine LocaleBlock.check_eq_ok_iff.2 ⟨composable.navValid block block_mem,
        composable.ownDirectory block block_mem, ?_⟩
      intro isRoot id id_mem
      rcases mem_directoryIds_iff.1 id_mem with ⟨other, other_mem, isOther, rfl⟩
      exact composable.foreignFree block block_mem isRoot other other_mem isOther

end Site

namespace Composable

variable {isPattern : String → Bool} {base : BaseConfig} {blocks : List LocaleBlock}

theorem eq_of_root (composable : Composable isPattern base blocks) {left right : LocaleBlock}
    (left_mem : left ∈ blocks) (right_mem : right ∈ blocks) (leftRoot : left.root = true)
    (rightRoot : right.root = true) : left = right := by
  have one := composable.oneRoot
  rw [List.countP_eq_length_filter, List.length_eq_one_iff] at one
  rcases one with ⟨root, only⟩
  have left_eq : left ∈ [root] := only ▸ List.mem_filter.2 ⟨left_mem, leftRoot⟩
  have right_eq : right ∈ [root] := only ▸ List.mem_filter.2 ⟨right_mem, rightRoot⟩
  rw [List.mem_singleton.1 left_eq, List.mem_singleton.1 right_eq]

theorem exists_root (composable : Composable isPattern base blocks) :
    ∃ block ∈ blocks, block.root = true := by
  apply List.countP_pos_iff.1
  rw [composable.oneRoot]
  exact Nat.one_pos

/-- No two locales are published under one key. -/
theorem nodup_keys (composable : Composable isPattern base blocks) :
    ((blocks.map fun block => (block.key, block.inherit base)).map Prod.fst).Nodup := by
  rw [List.map_map]
  apply List.pairwise_map.2
  apply composable.distinct.imp_of_mem
  intro left right left_mem right_mem different same
  simp only [Function.comp_apply, LocaleBlock.key, LocaleBlock.rootKey] at same
  by_cases leftRoot : left.root = true
  · by_cases rightRoot : right.root = true
    · exact different (composable.eq_of_root left_mem right_mem leftRoot rightRoot ▸ rfl)
    · rw [if_pos leftRoot, if_neg rightRoot] at same
      exact composable.unreserved right right_mem (Bool.eq_false_iff.2 rightRoot) same.symm
  · by_cases rightRoot : right.root = true
    · rw [if_neg leftRoot, if_pos rightRoot] at same
      exact composable.unreserved left left_mem (Bool.eq_false_iff.2 leftRoot) same
    · rw [if_neg leftRoot, if_neg rightRoot] at same
      exact different same

theorem locale?_publish_eq_some_iff (composable : Composable isPattern base blocks) {key : String}
    {locale : LocaleBlock} :
    (Site.publish base blocks).locale? key = some locale ↔
      ∃ block ∈ blocks, key = block.key ∧ locale = block.inherit base := by
  unfold Site.locale? Site.publish
  rw [KeyMap.get?_ofList_eq_some_iff composable.nodup_keys, List.mem_map]
  simp only [Prod.mk.injEq, eq_comm]

theorem publishes (composable : Composable isPattern base blocks) :
    Publishes (Site.publish base blocks) base blocks where
  base_eq := rfl
  locale_iff key locale := by
    rw [composable.locale?_publish_eq_some_iff]
    simp only [LocaleBlock.key, LocaleBlock.rootKey, LocaleBlock.inherit, Option.orElse_eq_or]
  size_eq := by
    have same := (KeyMap.entries_ofList_perm composable.nodup_keys).length_eq
    rw [List.length_map] at same
    exact same

end Composable

theorem Publishes.unique {left right : Site} {base : BaseConfig} {blocks : List LocaleBlock}
    (leftPublishes : Publishes left base blocks) (rightPublishes : Publishes right base blocks) :
    left = right := by
  have sameLocales : left.locales = right.locales := by
    apply KeyMap.eq_of_get?_iff
    intro key locale
    exact (leftPublishes.locale_iff key locale).trans (rightPublishes.locale_iff key locale).symm
  cases left
  cases right
  cases sameLocales
  cases leftPublishes.base_eq
  cases rightPublishes.base_eq
  rfl

namespace Site

/-- Settings and locales are accepted just when they are composable, and the site is then the one
that publishes them. -/
theorem compose_accepts_iff (isPattern : String → Bool) (base : BaseConfig)
    (blocks : List LocaleBlock) :
    ((∃ site, compose isPattern base blocks = .ok site) ↔ Composable isPattern base blocks) ∧
      ∀ site, compose isPattern base blocks = .ok site ↔
        Composable isPattern base blocks ∧ Publishes site base blocks := by
  constructor
  · constructor
    · rintro ⟨site, composed⟩
      exact (compose_eq_ok_iff.1 composed).1
    · intro composable
      exact ⟨publish base blocks, compose_eq_ok_iff.2 ⟨composable, rfl⟩⟩
  · intro site
    rw [compose_eq_ok_iff]
    refine and_congr_right fun composable => ?_
    constructor
    · rintro rfl
      exact composable.publishes
    · intro publishes
      exact publishes.unique composable.publishes

end Site

end LocaleSite
