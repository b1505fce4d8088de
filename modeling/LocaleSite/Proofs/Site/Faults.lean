import LocaleSite.Proofs.Site.Namespaces
import Mathlib.Data.List.Nodup

/-!
# Faults of a composition

What a composition says when it fails is so. `Site.SetFault` and `LocaleBlock.LocaleFault` list
the ways in which the checks of the set and of one locale fail. Ids are checked in the order of
declaration against those before them. By the time single locales are checked their ids are known
to differ, so an id in such a fault names one locale.
-/

namespace LocaleSite

/-- The only member of a list with an id. -/
structure OnlyWithId {α : Type} (idOf : α → String) (members : List α) (id : String)
    (member : α) : Prop where
  mem : member ∈ members
  id_eq : idOf member = id
  unique : ∀ other ∈ members, idOf other = id → other = member

theorem OnlyWithId.of_nodup {α : Type} {idOf : α → String} {members : List α} {member : α}
    (nodup : (members.map idOf).Nodup) (mem : member ∈ members) :
    OnlyWithId idOf members (idOf member) member where
  mem := mem
  id_eq := rfl
  unique := fun _ other_mem same => List.inj_on_of_nodup_map nodup other_mem mem same

namespace LocaleBlock

/-- How the check of one locale fails, `others` being the ids of all locales but the root. -/
inductive LocaleFault (isPattern : String → Bool) (others : List String) (block : LocaleBlock) :
    ComposeError → Prop where
  | nav {error : NavError} (invalid : block.nav.validate isPattern = .error error) :
      LocaleFault isPattern others block (.nav block.id error)
  | unprefixed {role : PathRole} {path : String} (isOther : block.root = false)
      (uses : block.Uses role path) (outside : ¬Route.Within block.id path) :
      LocaleFault isPattern others block (.unprefixed block.id role path)
  | foreignPrefix {other : String} {role : PathRole} {path : String} (isRoot : block.root = true)
      (other_mem : other ∈ others) (uses : block.Uses role path)
      (inside : Route.Within other path) :
      LocaleFault isPattern others block (.foreignPrefix block.id other role path)

variable {isPattern : String → Bool} {others : List String} {block : LocaleBlock}

theorem localeFault_of_checkPath {role : PathRole} {path : String} {error : ComposeError}
    (uses : block.Uses role path)
    (failed : block.checkPath others (role, path) = .error error) :
    LocaleFault isPattern others block error := by
  rw [checkPath] at failed
  cases isRoot : block.root with
  | false =>
      by_cases inside : Route.Within block.id path
      · simp [isRoot, inside] at failed
      · simp only [isRoot, Bool.false_eq_true, if_false, Route.isUnder_iff, inside,
          Except.error.injEq] at failed
        rw [← failed]
        exact .unprefixed isRoot uses inside
  | true =>
      simp only [isRoot, if_true] at failed
      split at failed
      · rename_i other found
        cases failed
        have inside := List.find?_some found
        exact .foreignPrefix isRoot (List.mem_of_find?_eq_some found) uses
          (Route.isUnder_iff.1 inside)
      · cases failed

theorem localeFault_of_check {error : ComposeError}
    (failed : block.check isPattern others = .error error) :
    LocaleFault isPattern others block error := by
  rw [check, checkPaths, Outcome.unit_bind_eq_error_iff, Outcome.mapError_eq_error_iff] at failed
  rcases failed with ⟨fault, invalid, rfl⟩ | ⟨_, pathFailed⟩
  · exact .nav invalid
  · rcases Outcome.exists_of_forM_eq_error pathFailed with ⟨⟨role, path⟩, path_mem, here⟩
    exact localeFault_of_checkPath (mem_routedPaths_iff.1 path_mem) here

end LocaleBlock

namespace Site

/-- How the checks of ids and roots fail. -/
inductive SetFault (blocks : List LocaleBlock) : ComposeError → Prop where
  | noLocales (empty : blocks = []) : SetFault blocks .noLocales
  | invalidId {block : LocaleBlock} (block_mem : block ∈ blocks)
      (unfit : LocaleBlock.isSegment block.id = false) :
      SetFault blocks (.invalidLocaleId block.id)
  | reservedId {block : LocaleBlock} (block_mem : block ∈ blocks) (isOther : block.root = false)
      (reserved : block.id = LocaleBlock.rootKey) : SetFault blocks .reservedLocaleId
  | duplicateId {before after : List LocaleBlock} {block : LocaleBlock}
      (split : blocks = before ++ block :: after) (known : block.id ∈ before.map (·.id)) :
      SetFault blocks (.duplicateLocale block.id)
  | missingRoot (rootless : blocks.filter (·.root) = []) : SetFault blocks .missingRoot
  | multipleRoots {first second : LocaleBlock} {others : List LocaleBlock}
      (roots : blocks.filter (·.root) = first :: second :: others) :
      SetFault blocks (.multipleRoots first.id second.id)

variable {isPattern : String → Bool} {base : BaseConfig} {blocks : List LocaleBlock}

/-- The check of the ids still to come, `done` being the locales whose ids are known. -/
theorem setFault_of_checkIds {done rest : List LocaleBlock} {error : ComposeError}
    (failed : checkIds (done.map (·.id)).reverse rest = .error error) :
    SetFault (done ++ rest) error := by
  induction rest generalizing done with
  | nil => cases failed
  | cons block rest ih =>
      have block_mem : block ∈ done ++ block :: rest := by simp
      rw [checkIds] at failed
      split at failed
      · rename_i unfit
        cases failed
        exact .invalidId block_mem (by simpa using unfit)
      · split at failed
        · rename_i reserved
          cases failed
          simp only [Bool.and_eq_true, Bool.not_eq_true', beq_iff_eq] at reserved
          exact .reservedId block_mem reserved.1 reserved.2
        · split at failed
          · rename_i known
            cases failed
            exact .duplicateId rfl (by simpa using known)
          · have later : checkIds ((done ++ [block]).map (·.id)).reverse rest = .error error := by
              simpa using failed
            simpa using ih later

theorem setFault_of_checkRoots {error : ComposeError} (failed : checkRoots blocks = .error error) :
    SetFault blocks error := by
  rw [checkRoots] at failed
  split at failed
  · rename_i rootless
    cases failed
    exact .missingRoot rootless
  · cases failed
  · rename_i first second others roots
    cases failed
    exact .multipleRoots roots

theorem setFault_of_checkSet {error : ComposeError} (failed : checkSet blocks = .error error) :
    SetFault blocks error := by
  cases blocks with
  | nil =>
      cases failed
      exact .noLocales rfl
  | cons block rest =>
      have checks : checkIds [] (block :: rest) >>= (fun _ => checkRoots (block :: rest)) =
          .error error := failed
      rcases Outcome.unit_bind_eq_error_iff.1 checks with idsFailed | ⟨_, rootsFailed⟩
      · have fresh : checkIds (([] : List LocaleBlock).map (·.id)).reverse (block :: rest) =
            .error error := idsFailed
        exact setFault_of_checkIds fresh
      · exact setFault_of_checkRoots rootsFailed

/-- How a composition fails. -/
inductive Fault (isPattern : String → Bool) (base : BaseConfig) (blocks : List LocaleBlock) :
    ComposeError → Prop where
  | base {error : BaseError} (invalid : base.validate = .error error) :
      Fault isPattern base blocks (.base error)
  | ofSet {error : ComposeError} (fault : SetFault blocks error) :
      Fault isPattern base blocks error
  | ofLocale {block : LocaleBlock} {error : ComposeError} (block_mem : block ∈ blocks)
      (nodup : (blocks.map (·.id)).Nodup)
      (segments : ∀ block ∈ blocks, LocaleBlock.isSegment block.id = true)
      (fault : LocaleBlock.LocaleFault isPattern (directoryIds blocks) block error) :
      Fault isPattern base blocks error

theorem fault_of_compose {error : ComposeError}
    (failed : compose isPattern base blocks = .error error) :
    Fault isPattern base blocks error := by
  rw [compose, Outcome.unit_bind_eq_error_iff, Outcome.mapError_eq_error_iff,
    Outcome.unit_bind_eq_error_iff, Outcome.unit_bind_eq_error_iff] at failed
  rcases failed with ⟨fault, invalid, rfl⟩ | ⟨_, setFailed | ⟨setPassed, eachFailed | ⟨_, result⟩⟩⟩
  · exact .base invalid
  · exact .ofSet (setFault_of_checkSet setFailed)
  · rcases Outcome.exists_of_forM_eq_error eachFailed with ⟨block, block_mem, here⟩
    rcases checkIds_eq_ok_iff.1 (checkSet_eq_ok_iff.1 setPassed).2.1 with ⟨segments, _, distinct, _⟩
    exact .ofLocale block_mem (List.pairwise_map.2 distinct) segments
      (LocaleBlock.localeFault_of_check here)
  · cases result

end Site

/-! ## What a fault says -/

/-- What an error says of the settings and the locales for which it is reported. -/
def ComposeError.TrueOf (isPattern : String → Bool) (base : BaseConfig)
    (blocks : List LocaleBlock) : ComposeError → Prop
  | .base error => base.validate = .error error
  | .noLocales => blocks = []
  | .invalidLocaleId id =>
      (∃ block ∈ blocks, block.id = id) ∧
        (id = "" ∨ ∃ c ∈ id.toList, c = '/' ∨ Text.isBlank c = true)
  | .reservedLocaleId => ∃ block ∈ blocks, block.root = false ∧ block.id = "root"
  | .duplicateLocale id =>
      ∃ (left right : Nat) (leftBlock rightBlock : LocaleBlock), left < right ∧
        blocks[left]? = some leftBlock ∧ blocks[right]? = some rightBlock ∧
        leftBlock.id = id ∧ rightBlock.id = id
  | .missingRoot => ∀ block ∈ blocks, block.root = false
  | .multipleRoots first second =>
      ∃ before firstRoot between secondRoot after,
        blocks = before ++ firstRoot :: (between ++ secondRoot :: after) ∧
          (∀ block ∈ before, block.root = false) ∧ firstRoot.root = true ∧
          (∀ block ∈ between, block.root = false) ∧ secondRoot.root = true ∧
          firstRoot.id = first ∧ secondRoot.id = second
  | .nav locale error =>
      ∃ block, OnlyWithId LocaleBlock.id blocks locale block ∧
        block.nav.validate isPattern = .error error
  | .unprefixed locale role path =>
      ∃ block, OnlyWithId LocaleBlock.id blocks locale block ∧ block.root = false ∧
        block.Uses role path ∧ ¬Route.Within locale path
  | .foreignPrefix locale other role path =>
      (∃ block, OnlyWithId LocaleBlock.id blocks locale block ∧ block.root = true ∧
        block.Uses role path) ∧
      (∃ block, OnlyWithId LocaleBlock.id blocks other block ∧ block.root = false) ∧
      Route.Within other path
  | .unknownSection _ _ => False

namespace Site

theorem SetFault.trueOf {isPattern : String → Bool} {base : BaseConfig}
    {blocks : List LocaleBlock} {error : ComposeError} (fault : SetFault blocks error) :
    error.TrueOf isPattern base blocks := by
  cases fault with
  | noLocales empty => exact empty
  | @invalidId block block_mem unfit =>
      refine ⟨⟨block, block_mem, rfl⟩, ?_⟩
      by_contra fit
      rw [not_or] at fit
      have segment : LocaleBlock.isSegment block.id = true := by
        refine LocaleBlock.isSegment_iff.2 ⟨fit.1, fun c c_mem => ?_⟩
        have clear := fun bad => fit.2 ⟨c, c_mem, bad⟩
        simpa [not_or] using clear
      simp [segment] at unfit
  | reservedId block_mem isOther reserved => exact ⟨_, block_mem, isOther, reserved⟩
  | @duplicateId before after block split known =>
      rcases List.mem_map.1 known with ⟨earlier, earlier_mem, same⟩
      rcases List.mem_iff_getElem?.1 earlier_mem with ⟨left, found⟩
      have bound := (List.getElem?_eq_some_iff.1 found).1
      refine ⟨left, before.length, earlier, block, bound, ?_, ?_, same, rfl⟩
      · rw [split, List.getElem?_append_left bound, found]
      · simp [split]
  | missingRoot rootless =>
      have noRoot : ∀ block ∈ blocks, block.root = false := by simpa using rootless
      exact noRoot
  | multipleRoots roots =>
      rcases List.filter_eq_cons_iff.1 roots with ⟨before, rest, rfl, noneBefore, firstRoot, later⟩
      rcases List.filter_eq_cons_iff.1 later with ⟨between, after, rfl, noneBetween, secondRoot, _⟩
      exact ⟨before, _, between, _, after, rfl, by simpa using noneBefore, firstRoot,
        by simpa using noneBetween, secondRoot, rfl, rfl⟩

/-- A composition fails with an error that is true of what was to be composed. -/
theorem trueOf_of_compose {isPattern : String → Bool} {base : BaseConfig}
    {blocks : List LocaleBlock} {error : ComposeError}
    (failed : compose isPattern base blocks = .error error) :
    error.TrueOf isPattern base blocks := by
  cases fault_of_compose failed with
  | base invalid => exact invalid
  | ofSet fault => exact fault.trueOf
  | @ofLocale block _ block_mem nodup segments fault =>
      -- The ids differ by now, so the one in the error is of this locale alone.
      have only : OnlyWithId LocaleBlock.id blocks block.id block := .of_nodup nodup block_mem
      cases fault with
      | nav invalid => exact ⟨block, only, invalid⟩
      | unprefixed isOther uses outside => exact ⟨block, only, isOther, uses, outside⟩
      | foreignPrefix isRoot id_mem uses inside =>
          rcases mem_directoryIds_iff.1 id_mem with ⟨other, other_mem, isOther, rfl⟩
          exact ⟨⟨block, only, isRoot, uses⟩, ⟨other, .of_nodup nodup other_mem, isOther⟩, inside⟩

/-- Locales of which two do not keep to their routes; the root locale, declared second, is
blamed first. -/
def strayBlocks : List LocaleBlock :=
  [.guide "fr" false "/fr" [⟨"Notes", "notes"⟩] ⟨by decide, by decide⟩,
    .guide "en" true "/fr" [⟨"Notes", "notes"⟩] ⟨by decide, by decide⟩,
    .guide "de" false "/it" [⟨"Notes", "notes"⟩] ⟨by decide, by decide⟩]

theorem trueOf_of_compose_strayBlocks :
    compose (fun _ => true) guideBase strayBlocks =
      .error (.foreignPrefix "en" "fr" .navLink "/fr/guide/start") ∧
    ComposeError.TrueOf (fun _ => true) guideBase strayBlocks
      (.foreignPrefix "en" "fr" .navLink "/fr/guide/start") := by
  have failed : compose (fun _ => true) guideBase strayBlocks =
      .error (.foreignPrefix "en" "fr" .navLink "/fr/guide/start") := rfl
  exact ⟨failed, trueOf_of_compose failed⟩

end Site

end LocaleSite
