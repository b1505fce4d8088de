import LocaleSite.Proofs.Date
import LocaleSite.Proofs.Locale.TwoDates

/-!
# A site composed at two dates

The date reaches a composed site in one place, the text of the first entry of each navigation bar.
Neither the checks of a set of locales nor those of one locale's paths read a text, so a site is
composed at both dates or at neither: `Site.composeLabels_alike`.
-/

namespace LocaleSite

/-- The errors are the same, or each is that the dated menu of one of the labels has no entries. -/
inductive ComposeError.AlikeButDate (labels : List LocaleLabels) (first second : Date) :
    ComposeError → ComposeError → Prop where
  | same (error : ComposeError) : AlikeButDate labels first second error error
  | emptyGroup {entry : LocaleLabels} (entry_mem : entry ∈ labels)
      (noPages : entry.nav.group.pages = []) :
      AlikeButDate labels first second
        (.nav entry.id (.noLinkOrChildren
          (entry.nav.group.text ++ "(" ++ first.toText ++ ")")))
        (.nav entry.id (.noLinkOrChildren
          (entry.nav.group.text ++ "(" ++ second.toText ++ ")")))

/-- The sites have the same settings, and under the same keys the locales of labels at two dates. -/
structure Site.AlikeButDate (labels : List LocaleLabels) (first second : Date)
    (left right : Site) : Prop where
  base_eq : left.base = right.base
  locales : left.locales.Related
    (fun left right => ∃ entry ∈ labels, entry.BlocksAlike first second left right)
    right.locales

variable {isPattern : String → Bool} {labels : List LocaleLabels} {first second : Date}

namespace LocaleLabels.BlocksAlike

variable {entry : LocaleLabels} {left right : LocaleBlock}

theorem same_id (alike : entry.BlocksAlike first second left right) : left.id = right.id := by
  rw [alike.rest_eq]

theorem same_root (alike : entry.BlocksAlike first second left right) :
    left.root = right.root := by
  rw [alike.rest_eq]

theorem same_key (alike : entry.BlocksAlike first second left right) : left.key = right.key := by
  rw [LocaleBlock.key, LocaleBlock.key, alike.same_id, alike.same_root]

theorem same_routedPaths (alike : entry.BlocksAlike first second left right) :
    left.routedPaths = right.routedPaths := by
  have sameSidebar : left.sidebar = right.sidebar := by
    rw [alike.rest_eq]
  rw [LocaleBlock.routedPaths, LocaleBlock.routedPaths, alike.retitled.links_eq,
    alike.retitled.activeMatches_eq, sameSidebar]

theorem same_checkPaths (alike : entry.BlocksAlike first second left right)
    (others : List String) : left.checkPaths others = right.checkPaths others := by
  have samePath : left.checkPath others = right.checkPath others := by
    funext path
    rw [LocaleBlock.checkPath, LocaleBlock.checkPath, alike.same_id, alike.same_root]
  rw [LocaleBlock.checkPaths, LocaleBlock.checkPaths, alike.same_routedPaths, samePath]

theorem inherit (alike : entry.BlocksAlike first second left right) (base : BaseConfig) :
    entry.BlocksAlike first second (left.inherit base) (right.inherit base) where
  id_eq := alike.id_eq
  rest_eq := by
    rw [alike.rest_eq]
    rfl
  retitled := alike.retitled

end LocaleLabels.BlocksAlike

namespace Site

/-- The locales of one of the labels at two dates, with valid bars. -/
def BuiltAlike (isPattern : String → Bool) (labels : List LocaleLabels) (first second : Date)
    (left right : LocaleBlock) : Prop :=
  left.nav.validate isPattern = .ok () ∧ right.nav.validate isPattern = .ok () ∧
    ∃ entry ∈ labels, entry.BlocksAlike first second left right

theorem buildLocales_alike :
    Outcome.Related (ComposeError.AlikeButDate labels first second)
      (List.Forall₂ (BuiltAlike isPattern labels first second))
      (buildLocales isPattern labels first) (buildLocales isPattern labels second) := by
  apply Outcome.Related.mapM
  intro entry entry_mem
  have built : Outcome.Related (entry.FaultsAlike first second)
      (BuiltAlike isPattern labels first second) (entry.build isPattern first)
      (entry.build isPattern second) := by
    apply (entry.build_related first second).of_runs
    intro left right leftBuilt rightBuilt alike
    rcases LocaleLabels.build_eq_ok_iff.1 leftBuilt with ⟨leftNav, _, leftNavBuilt, _, rfl⟩
    rcases LocaleLabels.build_eq_ok_iff.1 rightBuilt with ⟨rightNav, _, rightNavBuilt, _, rfl⟩
    exact ⟨(LocaleLabels.buildNav_eq_ok_iff.1 leftNavBuilt).2.2.2,
      (LocaleLabels.buildNav_eq_ok_iff.1 rightNavBuilt).2.2.2, entry, entry_mem, alike⟩
  apply built.mapError
  rintro left right (rfl | ⟨noPages, rfl, rfl⟩)
  · exact .same _
  · exact .emptyGroup entry_mem noPages

variable {left right : List LocaleBlock}

theorem same_checkIds (alike : List.Forall₂ (BuiltAlike isPattern labels first second) left right)
    (earlier : List String) : checkIds earlier left = checkIds earlier right := by
  induction alike generalizing earlier with
  | nil => rfl
  | cons here _ ih =>
      rcases here with ⟨_, _, entry, _, alike⟩
      rw [checkIds, checkIds, alike.same_id, alike.same_root, ih]

theorem same_checkRoots
    (alike : List.Forall₂ (BuiltAlike isPattern labels first second) left right) :
    checkRoots left = checkRoots right := by
  have roots : List.Forall₂ (BuiltAlike isPattern labels first second) (left.filter (·.root))
      (right.filter (·.root)) := by
    refine List.rel_filter ?_ alike
    rintro leftBlock rightBlock ⟨_, _, entry, _, alike⟩
    simp only [alike.same_root]
  unfold checkRoots
  generalize left.filter (·.root) = leftRoots at roots
  generalize right.filter (·.root) = rightRoots at roots
  rcases roots with _ | ⟨⟨_, _, _, _, firstAlike⟩, _ | ⟨⟨_, _, _, _, secondAlike⟩, _⟩⟩
  · rfl
  · rfl
  · simp only [firstAlike.same_id, secondAlike.same_id]

theorem same_checkSet
    (alike : List.Forall₂ (BuiltAlike isPattern labels first second) left right) :
    checkSet left = checkSet right := by
  have sameEmpty : left.isEmpty = right.isEmpty := by
    cases alike <;> rfl
  rw [checkSet, checkSet, sameEmpty, same_checkIds alike, same_checkRoots alike]

theorem same_directoryIds
    (alike : List.Forall₂ (BuiltAlike isPattern labels first second) left right) :
    directoryIds left = directoryIds right := by
  induction alike with
  | nil => rfl
  | cons here _ ih =>
      rcases here with ⟨_, _, entry, _, alike⟩
      simp only [directoryIds, List.filter_cons, alike.same_root] at ih ⊢
      split
      · simp only [List.map_cons, alike.same_id, ih]
      · exact ih

theorem same_checks
    (alike : List.Forall₂ (BuiltAlike isPattern labels first second) left right) :
    left.forM (LocaleBlock.check isPattern (directoryIds left)) =
      right.forM (LocaleBlock.check isPattern (directoryIds right)) := by
  rw [same_directoryIds alike]
  apply Outcome.forM_congr
  apply alike.imp
  rintro leftBlock rightBlock ⟨leftValid, rightValid, entry, _, alike⟩
  rw [LocaleBlock.check, LocaleBlock.check, leftValid, rightValid, alike.same_checkPaths]
  rfl

theorem publish_alike (base : BaseConfig)
    (alike : List.Forall₂ (BuiltAlike isPattern labels first second) left right) :
    AlikeButDate labels first second (publish base left) (publish base right) where
  base_eq := rfl
  locales := by
    apply KeyMap.related_ofList
    rw [List.forall₂_map_left_iff, List.forall₂_map_right_iff]
    apply alike.imp
    rintro leftBlock rightBlock ⟨_, _, entry, entry_mem, alike⟩
    exact ⟨alike.same_key, entry, entry_mem, alike.inherit base⟩

/-- At any two dates the labels make sites that differ in nothing but the texts of the dated menus,
or they make none, for one and the same reason up to such a text. The texts tell the dates. -/
theorem composeLabels_alike (isPattern : String → Bool) (base : BaseConfig)
    (labels : List LocaleLabels) (first second : Date) :
    Outcome.Related (ComposeError.AlikeButDate labels first second)
        (Site.AlikeButDate labels first second)
        (composeLabels isPattern base labels first)
        (composeLabels isPattern base labels second) ∧
      ∀ text : String,
        text ++ "(" ++ first.toText ++ ")" = text ++ "(" ++ second.toText ++ ")" ↔
          first = second := by
  have same : ∀ error, ComposeError.AlikeButDate labels first second error error := .same
  refine ⟨?_, ?_⟩
  · apply buildLocales_alike.bind
    intro left right alike
    apply (Outcome.Related.of_eq same rfl).bind
    intro _ _ _
    apply (Outcome.Related.of_eq same (same_checkSet alike)).bind
    intro _ _ _
    apply (Outcome.Related.of_eq same (same_checks alike)).bind
    intro _ _ _
    exact .ok (publish_alike base alike)
  · intro text
    simp [Date.toText_injective.eq_iff]

end Site

end LocaleSite
