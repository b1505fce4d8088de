import LocaleSite.Proofs.Locale.Acceptance
import LocaleSite.Proofs.Regex.Atoms

/-!
# The pattern of the dated menu

The dated menu is highlighted by the route root of its section, which is taken for a pattern as it
stands. Directories and ids are names of any kind, so it may be none: then the bar is refused,
though the sidebar has the same section. Names without operators do not lead to this, and a
parenthesis that a directory opens and does not close always does.
-/

namespace LocaleSite.LocaleLabels

variable {labels : LocaleLabels} {date : Date}

/-- The route root of the section of the dated menu. -/
def groupRoot (labels : LocaleLabels) : String := labels.sectionRoot labels.nav.group.sectionDir

theorem activeMatches_of_unpatterned
    (unpatterned : ∀ pattern, ¬labels.ExtraUses .activeMatch pattern) :
    (labels.navTree date).activeMatches = [labels.groupRoot] := by
  have noExtra : NavTree.activeMatches ⟨labels.nav.extra⟩ = [] := by
    rw [List.eq_nil_iff_forall_not_mem]
    intro pattern pattern_mem
    exact unpatterned pattern (mem_activeMatches_extra_iff.1 pattern_mem)
  rw [activeMatches_navTree, noExtra, groupRoot, sectionRoot_eq]

/-- A bar whose extra entries have no patterns is refused for that of its dated menu only, namely
when this is none and nothing else is wrong. -/
theorem buildNav_eq_invalidActiveMatch_iff {isPattern : String → Bool}
    (unpatterned : ∀ pattern, ¬labels.ExtraUses .activeMatch pattern) {pattern : String} :
    labels.buildNav isPattern date = .error (.nav (.invalidActiveMatch pattern)) ↔
      pattern = labels.groupRoot ∧ isPattern labels.groupRoot = false ∧
        ∃ nav, labels.buildNav (fun _ => true) date = .ok nav := by
  have refused : ([labels.groupRoot].find? fun other => !isPattern other) = some pattern ↔
      pattern = labels.groupRoot ∧ isPattern labels.groupRoot = false := by
    cases accepted : isPattern labels.groupRoot <;> simp [accepted, eq_comm]
  simp only [buildNav_eq_nav_error_iff, buildNav_eq_ok_iff,
    NavTree.validate_eq_invalidActiveMatch_iff, NavTree.validate_eq_ok_iff_lists,
    activeMatches_of_unpatterned unpatterned, refused]
  constructor
  · rintro ⟨declared, linksDeclared, wellShaped, nodup, rfl, invalid⟩
    exact ⟨rfl, invalid, _, declared, linksDeclared, rfl, wellShaped, nodup, fun _ _ => trivial⟩
  · rintro ⟨rfl, invalid, _, declared, linksDeclared, rfl, wellShaped, nodup, _⟩
    exact ⟨declared, linksDeclared, wellShaped, nodup, rfl, invalid⟩

theorem isPlain_routeStart (idPlain : labels.root = false → Regex.IsPlain labels.id) :
    Regex.IsPlain labels.routeStart := by
  rw [routeStart]
  cases isRoot : labels.root with
  | true => simp
  | false => simpa using idPlain isRoot

theorem isPlain_groupRoot (idPlain : labels.root = false → Regex.IsPlain labels.id)
    (dirPlain : Regex.IsPlain labels.nav.group.sectionDir) : Regex.IsPlain labels.groupRoot := by
  rw [groupRoot, sectionRoot, Route.root]
  simp [isPlain_routeStart idPlain, dirPlain]

theorem isPattern_groupRoot_of_unclosed {isPattern : String → Bool} {longest : Nat}
    (laws : Regex.PatternLaws isPattern longest)
    (idPlain : labels.root = false → Regex.IsPlain labels.id) {before after : String}
    (plainBefore : Regex.IsPlain before) (plainAfter : Regex.IsPlain after)
    (dir_eq : labels.nav.group.sectionDir = before ++ "(" ++ after) :
    isPattern labels.groupRoot = false := by
  have split : labels.groupRoot =
      labels.routeStart ++ "/" ++ before ++ "(" ++ (after ++ "/") := by
    simp only [groupRoot, sectionRoot, Route.root, dir_eq, String.append_assoc]
  rw [split]
  apply laws.unclosed
  · simp [isPlain_routeStart idPlain, plainBefore]
  · simp [plainAfter]

/-- Where the extra entries have no patterns, a bar is refused for a pattern just when the route
root of the section of its dated menu is no pattern and nothing else is wrong. With an id without
operators, a directory without them never leads to this, unless the path is too long, and one whose
only operator is an opening parenthesis always does. -/
theorem buildNav_refuses_groupRoot {labels : LocaleLabels} {isPattern : String → Bool}
    {longest : Nat} (laws : Regex.PatternLaws isPattern longest)
    (unpatterned : ∀ pattern, ¬labels.ExtraUses .activeMatch pattern) (date : Date) :
    (∀ pattern, labels.buildNav isPattern date = .error (.nav (.invalidActiveMatch pattern)) ↔
      pattern = labels.groupRoot ∧ isPattern labels.groupRoot = false ∧
        ∃ nav, labels.buildNav (fun _ => true) date = .ok nav) ∧
    ((labels.root = false → Regex.IsPlain labels.id) →
      (Regex.IsPlain labels.nav.group.sectionDir → labels.groupRoot.length ≤ longest →
        ∀ pattern, labels.buildNav isPattern date ≠
          .error (.nav (.invalidActiveMatch pattern))) ∧
      ∀ before after, Regex.IsPlain before → Regex.IsPlain after →
        labels.nav.group.sectionDir = before ++ "(" ++ after →
        (∃ nav, labels.buildNav (fun _ => true) date = .ok nav) →
        labels.buildNav isPattern date =
          .error (.nav (.invalidActiveMatch labels.groupRoot))) := by
  refine ⟨fun pattern => buildNav_eq_invalidActiveMatch_iff unpatterned, ?_⟩
  intro idPlain
  constructor
  · intro dirPlain short pattern refused
    have invalid := ((buildNav_eq_invalidActiveMatch_iff unpatterned).1 refused).2.1
    rw [laws.plain _ (isPlain_groupRoot idPlain dirPlain) short] at invalid
    cases invalid
  · intro before after plainBefore plainAfter dir_eq otherwiseFine
    have invalid := isPattern_groupRoot_of_unclosed laws idPlain plainBefore plainAfter dir_eq
    exact (buildNav_eq_invalidActiveMatch_iff unpatterned).2 ⟨rfl, invalid, otherwiseFine⟩

/-- Labels of a locale with one section, to which the bar leads. -/
def oneSection (dir : String) : LocaleLabels where
  id := "en"
  root := true
  label := "English"
  lang := "en-US"
  description := ""
  title := none
  nav := {
    group := ⟨"Guide", dir, [⟨"Start", "start"⟩]⟩
    links := []
    extra := [] }
  sections := [⟨dir, "Guide", false, [⟨"Start", "start"⟩]⟩]
  editLink := none
  footer := none

theorem unpatterned_oneSection (dir pattern : String) :
    ¬(oneSection dir).ExtraUses .activeMatch pattern := by
  rintro ⟨position, entry, leads, _⟩
  cases position <;> cases leads

theorem buildNav_accepts_user_guide :
    Regex.PatternLaws Regex.isValid 1000 ∧
      (∀ pattern, ¬(oneSection "user_guide").ExtraUses .activeMatch pattern) ∧
      ∀ pattern, (oneSection "user_guide").buildNav Regex.isValid .epoch ≠
        .error (.nav (.invalidActiveMatch pattern)) := by
  have laws := Regex.patternLaws_isValid 1000
  have unpatterned := unpatterned_oneSection "user_guide"
  have dirPlain : Regex.IsPlain "user_guide" := by
    simp [Regex.IsPlain, Regex.isOperator]
  have short : (oneSection "user_guide").groupRoot.length ≤ 1000 := by decide
  have idPlain : (oneSection "user_guide").root = false →
      Regex.IsPlain (oneSection "user_guide").id := by
    intro isDirectory
    cases isDirectory
  have ofPlainId := (buildNav_refuses_groupRoot laws unpatterned .epoch).2 idPlain
  exact ⟨laws, unpatterned, ofPlainId.1 dirPlain short⟩

/-- A directory with a parenthesis, for which the route root is no pattern: the bar is refused, and
the sidebar is not. -/
theorem buildNav_refuses_parenthesis :
    Regex.isValid "/guide(old/" = false ∧
      (∀ pattern, ¬(oneSection "guide(old").ExtraUses .activeMatch pattern) ∧
      (∀ isPattern : String → Bool, isPattern "/guide(old/" = false →
        (oneSection "guide(old").buildNav isPattern .epoch =
          .error (.nav (.invalidActiveMatch "/guide(old/"))) ∧
      ∃ sidebar, (oneSection "guide(old").buildSidebar = .ok sidebar := by
  have unpatterned := unpatterned_oneSection "guide(old"
  have invalid : Regex.isValid "/guide(old/" = false := by decide +kernel
  refine ⟨invalid, unpatterned, ?_, _, rfl⟩
  intro isPattern refused
  exact (buildNav_eq_invalidActiveMatch_iff unpatterned).2 ⟨rfl, refused, _, rfl⟩

end LocaleSite.LocaleLabels
