import LocaleSite.Proofs.Locale.Build
import LocaleSite.Proofs.Site.Faults

/-!
# Composing built locales

Locales are built with paths of the form that the composition demands. What it can still find at
fault in a locale that was built are the entries that its labels give as they are, and in the root
locale a section whose directory is that of another locale.
-/

namespace LocaleSite

namespace LocaleLabels

variable {labels : LocaleLabels} {path : String}

theorem Covers.within (covers : labels.Covers path) (isOther : labels.root = false) :
    Route.Within labels.id path := by
  rcases covers with ⟨entry, _, rest, rfl⟩
  refine ⟨entry.dir ++ "/" ++ rest, ?_⟩
  simp [sectionRoot, routeStart, isOther, Route.root, String.append_assoc]

/-- A path of the root locale that lies in a directory lies below a section that does. -/
theorem Covers.exists_section (covers : labels.Covers path) (isRoot : labels.root = true)
    {name : String} (free : '/' ∉ name.toList) (inside : Route.Within name path) :
    ∃ entry ∈ labels.sections, entry.dir = name ∨ ∃ more, entry.dir = name ++ "/" ++ more := by
  rcases covers with ⟨entry, entry_mem, rest, rfl⟩
  rw [sectionRoot, routeStart, if_pos isRoot, String.empty_append] at inside
  exact ⟨entry, entry_mem, inside.eq_or_extends free⟩

end LocaleLabels

namespace Site

/-- The locales that are built from labels, dated. -/
def Built (isPattern : String → Bool) (date : Date) (labels : List LocaleLabels)
    (blocks : List LocaleBlock) : Prop :=
  List.Forall₂ (fun entry block => entry.build isPattern date = .ok block) labels blocks

variable {isPattern : String → Bool} {date : Date} {labels : List LocaleLabels}
  {blocks : List LocaleBlock}

theorem buildLocales_eq_ok_iff :
    buildLocales isPattern labels date = .ok blocks ↔ Built isPattern date labels blocks := by
  simp [buildLocales, Built, Outcome.mapM_eq_ok_iff]

theorem Built.exists_labels (built : Built isPattern date labels blocks) {block : LocaleBlock}
    (block_mem : block ∈ blocks) :
    ∃ entry ∈ labels, entry.build isPattern date = .ok block :=
  Outcome.exists_of_mem_results built block_mem

end Site

theorem LocaleLabels.id_eq_of_build {isPattern : String → Bool} {date : Date}
    {labels : LocaleLabels} {block : LocaleBlock}
    (built : labels.build isPattern date = .ok block) :
    block.id = labels.id ∧ block.root = labels.root := by
  rcases build_eq_ok_iff.1 built with ⟨nav, sidebar, _, _, rfl⟩
  exact ⟨rfl, rfl⟩

namespace Site

variable {isPattern : String → Bool} {date : Date} {labels : List LocaleLabels}
  {blocks : List LocaleBlock}

theorem Built.map_id_eq (built : Built isPattern date labels blocks) :
    blocks.map (·.id) = labels.map (·.id) := by
  induction built with
  | nil => rfl
  | cons here _ ih => rw [List.map_cons, List.map_cons, (LocaleLabels.id_eq_of_build here).1, ih]

/-- The labels of a locale that is at fault by itself, and how it is. -/
theorem Built.exists_localeFault (built : Built isPattern date labels blocks) {base : BaseConfig}
    {error : ComposeError} (failed : compose isPattern base blocks = .error error)
    (notBase : ∀ fault, error ≠ .base fault) (notSet : ¬SetFault blocks error) :
    ∃ entry block, OnlyWithId LocaleLabels.id labels entry.id entry ∧
      entry.build isPattern date = .ok block ∧
      (∀ other ∈ directoryIds blocks, '/' ∉ other.toList) ∧
      LocaleBlock.LocaleFault isPattern (directoryIds blocks) block error := by
  cases fault_of_compose failed with
  | @base fault _ => exact absurd rfl (notBase fault)
  | ofSet fault => exact absurd fault notSet
  | @ofLocale block _ block_mem nodup segments fault =>
      rcases built.exists_labels block_mem with ⟨entry, entry_mem, builtHere⟩
      have labelsNodup : (labels.map (·.id)).Nodup := built.map_id_eq ▸ nodup
      refine ⟨entry, block, .of_nodup labelsNodup entry_mem, builtHere, ?_, fault⟩
      intro id id_mem
      rcases mem_directoryIds_iff.1 id_mem with ⟨other, other_mem, _, rfl⟩
      intro slash
      exact ((LocaleBlock.isSegment_iff.1 (segments other other_mem)).2 _ slash).1 rfl

/-- Built locales have valid bars, and paths in places of their own: what does not keep to its
routes is an extra entry, or the root locale's section in the directory of another locale. -/
theorem compose_faults_of_built (built : Built isPattern date labels blocks) (base : BaseConfig) :
    (∀ locale error, compose isPattern base blocks ≠ .error (.nav locale error)) ∧
    (∀ locale role path, compose isPattern base blocks = .error (.unprefixed locale role path) →
      ∃ entry, OnlyWithId LocaleLabels.id labels locale entry ∧ entry.root = false ∧
        entry.ExtraUses role path) ∧
    ∀ locale other role path,
      compose isPattern base blocks = .error (.foreignPrefix locale other role path) →
        ∃ entry, OnlyWithId LocaleLabels.id labels locale entry ∧ entry.root = true ∧
          (entry.ExtraUses role path ∨ ∃ part ∈ entry.sections,
            part.dir = other ∨ ∃ more, part.dir = other ++ "/" ++ more) := by
  refine ⟨?_, ?_, ?_⟩
  · intro locale error failed
    rcases built.exists_localeFault failed nofun nofun with ⟨entry, block, _, builtHere, _, fault⟩
    rcases LocaleLabels.build_eq_ok_iff.1 builtHere with ⟨nav, sidebar, navBuilt, _, rfl⟩
    rcases LocaleLabels.buildNav_eq_ok_iff.1 navBuilt with ⟨_, _, _, valid⟩
    cases fault with
    | nav invalid => simp [LocaleLabels.withTrees, valid] at invalid
  · intro locale role path failed
    rcases built.exists_localeFault failed nofun nofun with
      ⟨entry, block, only, builtHere, _, fault⟩
    rcases LocaleLabels.id_eq_of_build builtHere with ⟨sameId, sameRoot⟩
    cases fault with
    | unprefixed isOther uses outside =>
        have notRoot := sameRoot ▸ isOther
        rcases LocaleLabels.covers_or_extraUses builtHere uses with covers | extra
        · exact absurd (sameId ▸ covers.within notRoot) outside
        · exact ⟨entry, sameId ▸ only, notRoot, extra⟩
  · intro locale other role path failed
    rcases built.exists_localeFault failed nofun nofun with
      ⟨entry, block, only, builtHere, slashFree, fault⟩
    rcases LocaleLabels.id_eq_of_build builtHere with ⟨sameId, sameRoot⟩
    cases fault with
    | foreignPrefix isRoot other_mem uses inside =>
        have atRoot := sameRoot ▸ isRoot
        refine ⟨entry, sameId ▸ only, atRoot, ?_⟩
        rcases LocaleLabels.covers_or_extraUses builtHere uses with covers | extra
        · exact .inr (covers.exists_section atRoot (slashFree other other_mem) inside)
        · exact .inl extra

/-- Labels with a section of guide pages, and with other sections and extra entries. -/
def guideLabels (id : String) (root : Bool) (sections : List SectionLabels)
    (extra : List NavItem) : LocaleLabels where
  id := id
  root := root
  label := id
  lang := id
  description := ""
  title := none
  nav := ⟨⟨"Guide", "guide", [⟨"Start", "start"⟩]⟩, [], extra⟩
  sections := ⟨"guide", "Guide", false, [⟨"Start", "start"⟩]⟩ :: sections
  editLink := none
  footer := none

/-- A menu whose only entry leads out of all locales but the root. -/
def strayMenu : NavItem := .group "More" [.leaf "Notes" "/notes/today" none] none

theorem compose_faults_of_strays :
    (∃ blocks, Built (fun _ => true) .epoch
        [guideLabels "en" true [] [], guideLabels "zh" false [] [strayMenu]] blocks ∧
      compose (fun _ => true) guideBase blocks =
        .error (.unprefixed "zh" .navLink "/notes/today") ∧
      ∃ entry, OnlyWithId LocaleLabels.id
          [guideLabels "en" true [] [], guideLabels "zh" false [] [strayMenu]] "zh" entry ∧
        entry.root = false ∧ entry.ExtraUses .navLink "/notes/today") ∧
    ∃ blocks, Built (fun _ => true) .epoch
        [guideLabels "en" true [⟨"zh/notes", "Notes", false, []⟩] [],
          guideLabels "zh" false [] []] blocks ∧
      compose (fun _ => true) guideBase blocks =
        .error (.foreignPrefix "en" "zh" .sidebarBase "/zh/notes/") ∧
      ∃ entry, OnlyWithId LocaleLabels.id
          [guideLabels "en" true [⟨"zh/notes", "Notes", false, []⟩] [],
            guideLabels "zh" false [] []] "en" entry ∧
        entry.root = true ∧ (entry.ExtraUses .sidebarBase "/zh/notes/" ∨
          ∃ part ∈ entry.sections, part.dir = "zh" ∨ ∃ more, part.dir = "zh" ++ "/" ++ more) := by
  constructor
  · have built : Built (fun _ => true) .epoch
        [guideLabels "en" true [] [], guideLabels "zh" false [] [strayMenu]] _ :=
      .cons rfl (.cons rfl .nil)
    refine ⟨_, built, ?outside, (compose_faults_of_built built guideBase).2.1 _ _ _ ?outside⟩
    rfl
  · have built : Built (fun _ => true) .epoch
        [guideLabels "en" true [⟨"zh/notes", "Notes", false, []⟩] [],
          guideLabels "zh" false [] []] _ :=
      .cons rfl (.cons rfl .nil)
    refine ⟨_, built, ?inside, (compose_faults_of_built built guideBase).2.2 _ _ _ _ ?inside⟩
    rfl

end Site

end LocaleSite
