import LocaleSite.Proofs.Locale.Acceptance

/-!
# Links that leave the site

A link is left out of the check of routes when it leaves the site. The test looks at what stands
before the first `://` only, where the grammar asks for a scheme before any. The two agree: a scheme
has no colon, so it can only end at the first `://`. It has no slash and no question mark either, so
a path of the site stays one, whatever its query holds.
-/

namespace LocaleSite

namespace Route

/-- One of the 26 letters, small or capital. -/
def IsLetter (c : Char) : Prop := ('a' ≤ c ∧ c ≤ 'z') ∨ ('A' ≤ c ∧ c ≤ 'Z')

/-- What may follow the first letter of a scheme. -/
inductive FollowsInScheme : Char → Prop where
  | letter {c : Char} (isLetter : IsLetter c) : FollowsInScheme c
  | digit {c : Char} (lower : '0' ≤ c) (upper : c ≤ '9') : FollowsInScheme c
  | plus : FollowsInScheme '+'
  | dot : FollowsInScheme '.'
  | hyphen : FollowsInScheme '-'

/-- A text that begins with a scheme and `://`. -/
inductive Absolute : String → Prop where
  | intro {first : Char} {more : String} (isLetter : IsLetter first)
      (follows : ∀ c ∈ more.toList, FollowsInScheme c) (rest : String) :
      Absolute (String.singleton first ++ more ++ "://" ++ rest)

theorem isAlpha_iff {c : Char} : c.isAlpha = true ↔ IsLetter c := by
  have small : c.isLower = (decide ('a' ≤ c) && decide (c ≤ 'z')) := rfl
  have capital : c.isUpper = decide ('A' ≤ c ∧ c ≤ 'Z') := rfl
  have either : c.isAlpha = (c.isUpper || c.isLower) := rfl
  simp [either, capital, small, IsLetter, or_comm]

theorem isSchemeChar_iff {c : Char} : isSchemeChar c = true ↔ FollowsInScheme c := by
  have isDigit : c.isDigit = true ↔ '0' ≤ c ∧ c ≤ '9' := by
    simp [Char.isDigit, Char.le_def]
  simp only [isSchemeChar, Char.isAlphanum, Bool.or_eq_true, beq_iff_eq, isAlpha_iff, isDigit]
  constructor
  · rintro ((((isLetter | ⟨lower, upper⟩) | rfl) | rfl) | rfl)
    · exact .letter isLetter
    · exact .digit lower upper
    · exact .plus
    · exact .dot
    · exact .hyphen
  · rintro (isLetter | ⟨lower, upper⟩ | _ | _ | _) <;> simp [*]

theorem isScheme_cons_iff {first : Char} {more : List Char} :
    isScheme (first :: more) = true ↔ IsLetter first ∧ ∀ c ∈ more, FollowsInScheme c := by
  simp [isScheme, isAlpha_iff, isSchemeChar_iff]

theorem isSchemeChar_of_mem {scheme : List Char} (fits : isScheme scheme = true) {c : Char}
    (c_mem : c ∈ scheme) : isSchemeChar c = true := by
  cases scheme with
  | nil => cases c_mem
  | cons first more =>
      rcases isScheme_cons_iff.1 fits with ⟨isLetter, follows⟩
      rw [isSchemeChar_iff]
      rcases List.mem_cons.1 c_mem with rfl | later
      · exact .letter isLetter
      · exact follows c later

/-! ## The first `://` -/

theorem beforeAuthority_append {scheme : List Char} (colonFree : ':' ∉ scheme) (rest : List Char) :
    beforeAuthority (scheme ++ ':' :: '/' :: '/' :: rest) = some scheme := by
  induction scheme with
  | nil => rfl
  | cons c more ih =>
      rw [List.mem_cons, not_or] at colonFree
      simp [beforeAuthority, Ne.symm colonFree.1, ih colonFree.2]

theorem split_of_beforeAuthority {chars scheme : List Char}
    (found : beforeAuthority chars = some scheme) :
    ∃ rest, chars = scheme ++ ':' :: '/' :: '/' :: rest := by
  fun_induction beforeAuthority chars generalizing scheme with
  | case1 rest =>
      cases found
      exact ⟨rest, rfl⟩
  | case2 c more _ ih =>
      rcases Option.map_eq_some_iff.1 found with ⟨before, foundLater, rfl⟩
      rcases ih foundLater with ⟨rest, rfl⟩
      exact ⟨rest, rfl⟩
  | case3 => cases found

/-- A scheme ends before the first `://`, as it has no colon. -/
theorem isExternal_iff_split {path : String} :
    isExternal path = true ↔ ∃ scheme rest, isScheme scheme = true ∧
      path.toList = scheme ++ ':' :: '/' :: '/' :: rest := by
  constructor
  · intro external
    unfold isExternal at external
    split at external
    · rename_i scheme found
      rcases split_of_beforeAuthority found with ⟨rest, parted⟩
      exact ⟨scheme, rest, external, parted⟩
    · cases external
  · rintro ⟨scheme, rest, fits, parted⟩
    have colonFree : ':' ∉ scheme := by
      intro colon
      exact absurd (isSchemeChar_of_mem fits colon) (by decide)
    rw [isExternal, parted, beforeAuthority_append colonFree]
    exact fits

theorem isExternal_iff {path : String} : isExternal path = true ↔ Absolute path := by
  rw [isExternal_iff_split]
  constructor
  · rintro ⟨_ | ⟨first, more⟩, rest, fits, parted⟩
    · cases fits
    · rcases isScheme_cons_iff.1 fits with ⟨isLetter, follows⟩
      have whole : path =
          String.singleton first ++ String.ofList more ++ "://" ++ String.ofList rest :=
        String.toList_injective (by simp [parted])
      exact whole ▸ .intro isLetter (by simpa using follows) (String.ofList rest)
  · rintro ⟨isLetter, follows, rest⟩
    exact ⟨_, rest.toList, isScheme_cons_iff.2 ⟨isLetter, follows⟩, by simp⟩

theorem isExternal_of_slash (rest : String) : isExternal ("/" ++ rest) = false := by
  apply Bool.eq_false_iff.2
  intro external
  rcases isExternal_iff_split.1 external with ⟨_ | ⟨first, more⟩, later, fits, parted⟩
  · cases fits
  · have isSlash : first = '/' := by
      rw [String.toList_append] at parted
      exact (List.cons.inj parted).1.symm
    exact absurd (isSchemeChar_of_mem fits List.mem_cons_self) (by rw [isSlash]; decide)

/-- What follows a question mark does not count. -/
theorem isExternal_query (path query : String) :
    isExternal (path ++ "?" ++ query) = isExternal path := by
  rw [Bool.eq_iff_iff, isExternal_iff_split, isExternal_iff_split]
  constructor
  · rintro ⟨scheme, rest, fits, parted⟩
    have markFree : '?' ∉ scheme ++ [':', '/', '/'] := by
      rw [List.mem_append, not_or]
      exact ⟨fun mark => absurd (isSchemeChar_of_mem fits mark) (by decide), by decide⟩
    have meet : path.toList ++ '?' :: query.toList = (scheme ++ [':', '/', '/']) ++ rest := by
      simpa using parted
    rcases List.append_eq_append_iff.1 meet with ⟨_ | ⟨mark, more⟩, front, back⟩ | ⟨more, inPath, _⟩
    · exact ⟨scheme, [], fits, by simpa using front.symm⟩
    · have isMark : mark = '?' := (List.cons.inj back).1.symm
      exact absurd (by simp [front, isMark]) markFree
    · exact ⟨scheme, more, fits, by simpa using inPath⟩
  · rintro ⟨scheme, rest, fits, parted⟩
    exact ⟨scheme, rest ++ '?' :: query.toList, fits, by simp [parted]⟩

end Route

/-! ## Links that are not checked -/

namespace LocaleLabels

/-- The paths that a locale is built with, each in its role; those of extra entries are not among
them. -/
inductive Generates (labels : LocaleLabels) : PathRole → String → Prop where
  | target {link : String} (link_mem : link ∈ labels.targets) : Generates labels .navLink link
  | groupMatch : Generates labels .activeMatch (labels.target labels.nav.group.sectionDir "")
  | sectionBase {part : SectionLabels} (part_mem : part ∈ labels.sections) :
      Generates labels .sidebarBase (labels.target part.dir "")

variable {labels : LocaleLabels} {isPattern : String → Bool} {date : Date}

theorem isExternal_target (labels : LocaleLabels) (dir page : String) :
    Route.isExternal (labels.target dir page) = false := by
  have slash : ∃ rest, labels.target dir page = "/" ++ rest := by
    unfold target
    split
    · exact ⟨dir ++ "/" ++ page, by simp [String.append_assoc]⟩
    · exact ⟨labels.id ++ "/" ++ dir ++ "/" ++ page, by simp [String.append_assoc]⟩
  rcases slash with ⟨rest, same⟩
  rw [same]
  exact Route.isExternal_of_slash rest

theorem isExternal_of_mem_targets {link : String} (link_mem : link ∈ labels.targets) :
    Route.isExternal link = false := by
  simp only [targets, List.mem_append, List.mem_map] at link_mem
  rcases link_mem with ⟨page, _, rfl⟩ | ⟨page, _, rfl⟩
  · exact labels.isExternal_target _ _
  · exact labels.isExternal_target _ _

/-- A built locale uses all paths that it is built with. -/
theorem Generates.uses {role : PathRole} {path : String} (generated : labels.Generates role path)
    {block : LocaleBlock} (built : labels.build isPattern date = .ok block) :
    block.Uses role path := by
  rcases build_eq_ok_iff.1 built with ⟨nav, sidebar, navBuilt, sidebarBuilt, rfl⟩
  rcases buildNav_eq_ok_iff.1 navBuilt with ⟨_, _, rfl, _⟩
  cases generated with
  | target link_mem =>
      refine ⟨NavTree.mem_links_iff.1 ?_, isExternal_of_mem_targets link_mem⟩
      change path ∈ (labels.navTree date).links
      rw [links_navTree]
      exact List.mem_append_left _ link_mem
  | groupMatch =>
      apply NavTree.mem_activeMatches_iff.1
      change _ ∈ (labels.navTree date).activeMatches
      rw [activeMatches_navTree]
      exact List.mem_cons_self
  | @sectionBase part part_mem =>
      have here := (get?_eq_some_iff_of_buildSidebar sidebarBuilt).2 ⟨part, part_mem, rfl, rfl⟩
      rw [sectionRoot_eq] at here
      exact ⟨_, here⟩

end LocaleLabels

namespace LocaleBlock

/-- A link of the bar that is not among the paths to be checked. -/
def Exempts (block : LocaleBlock) (link : String) : Prop :=
  link ∈ block.nav.links ∧ (PathRole.navLink, link) ∉ block.routedPaths

theorem exempts_iff {block : LocaleBlock} {link : String} :
    block.Exempts link ↔ link ∈ block.nav.links ∧ Route.Absolute link := by
  refine and_congr_right fun link_mem => ?_
  rw [mem_routedPaths_iff, Uses, ← NavTree.mem_links_iff, ← Route.isExternal_iff]
  simp [link_mem]

/-- A path leaves the site just when it is absolute, so just absolute links are not checked. A path
with a slash in front is not, and a query makes none so; what a locale is built with is checked. -/
theorem exempts_just_absolute :
    (∀ path, Route.isExternal path = true ↔ Route.Absolute path) ∧
    (∀ (block : LocaleBlock) link,
      block.Exempts link ↔ link ∈ block.nav.links ∧ Route.Absolute link) ∧
    (∀ rest, Route.isExternal ("/" ++ rest) = false) ∧
    (∀ path query, Route.isExternal (path ++ "?" ++ query) = Route.isExternal path) ∧
    ∀ {isPattern : String → Bool} {labels : LocaleLabels} {date block},
      labels.build isPattern date = .ok block → ∀ role path, labels.Generates role path →
        (role, path) ∈ block.routedPaths := by
  refine ⟨fun path => Route.isExternal_iff, fun block link => exempts_iff,
    Route.isExternal_of_slash, Route.isExternal_query, ?_⟩
  intro isPattern labels date block built role path generated
  exact mem_routedPaths_iff.2 (generated.uses built)

/-- Labels with a page whose query holds the address of another site, and with a link to one. -/
def queryLabels : LocaleLabels where
  id := "zh"
  root := false
  label := "Chinese"
  lang := "zh"
  description := ""
  title := none
  nav := ⟨⟨"Guide", "guide", [⟨"Start", "start?from=https://example.org/"⟩]⟩, [],
    [.leaf "Source" "git+ssh://example.org/source" none]⟩
  sections := [⟨"guide", "Guide", false, [⟨"Start", "start"⟩]⟩]
  editLink := none
  footer := none

theorem exempts_just_source :
    ∃ block, queryLabels.build (fun _ => true) .epoch = .ok block ∧
      queryLabels.Generates .navLink "/zh/guide/start?from=https://example.org/" ∧
      (.navLink, "/zh/guide/start?from=https://example.org/") ∈ block.routedPaths ∧
      block.Exempts "git+ssh://example.org/source" := by
  have built : queryLabels.build (fun _ => true) .epoch = .ok _ := rfl
  have generated : queryLabels.Generates .navLink "/zh/guide/start?from=https://example.org/" :=
    .target (by decide)
  refine ⟨_, built, generated, exempts_just_absolute.2.2.2.2 built _ _ generated, ?_⟩
  apply (exempts_just_absolute.2.1 _ _).2
  exact ⟨by decide, (exempts_just_absolute.1 _).1 (by decide)⟩

end LocaleBlock

end LocaleSite
