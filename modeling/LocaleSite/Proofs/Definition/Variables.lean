import LocaleSite.Definition
import LocaleSite.Proofs.Outcome

/-!
# Putting variables into a definition

Variables are put into the texts that `SiteDefinition.variableTexts` lists, and nothing else
changes. This fails at the first text of the list that refers to a variable that is unset.
-/

namespace LocaleSite.SiteDefinition

/-- The address of a social link, with its field. -/
def linkTexts (social : SocialLink) : List (String × String) :=
  [("site.social_links.link", social.link)]

/-- The pattern of the link to edit pages, if labels have one, with its field. -/
def patternTexts (labels : LocaleLabels) : List (String × String) :=
  labels.editLink.toList.map fun edit =>
    ("locales." ++ labels.id ++ ".edit_link.pattern", edit.pattern)

/-- The texts of a definition that may refer to variables, each with its field. -/
def variableTexts (written : SiteDefinition) : List (String × String) :=
  ("site.base", written.site.base) :: ("site.title", written.site.title) ::
    written.site.socialLinks.flatMap linkTexts ++ written.locales.flatMap patternTexts

section Expanded

variable (valueOf : String → Option String)

/-- A social link with variables put into its address. -/
structure LinkExpanded (written expanded : SocialLink) : Prop where
  icon_eq : expanded.icon = written.icon
  link : Expansion.expand valueOf written.link = .ok expanded.link

/-- Labels with variables put into the pattern of their link to edit pages, if they have one. -/
inductive LabelsExpanded (written : LocaleLabels) : LocaleLabels → Prop where
  | unlinked (absent : written.editLink = none) : LabelsExpanded written written
  | linked {edit : EditLink} {pattern : String} (present : written.editLink = some edit)
      (expanded : Expansion.expand valueOf edit.pattern = .ok pattern) :
      LabelsExpanded written { written with editLink := some { edit with pattern } }

/-- A definition with variables put into some of its texts and nothing else changed. -/
structure Expanded (written expanded : SiteDefinition) : Prop where
  base : Expansion.expand valueOf written.site.base = .ok expanded.site.base
  title : Expansion.expand valueOf written.site.title = .ok expanded.site.title
  socialLinks :
    List.Forall₂ (LinkExpanded valueOf) written.site.socialLinks expanded.site.socialLinks
  locales : List.Forall₂ (LabelsExpanded valueOf) written.locales expanded.locales
  others_eq : expanded = { written with
    site := { written.site with
      base := expanded.site.base
      title := expanded.site.title
      socialLinks := expanded.site.socialLinks }
    locales := expanded.locales }

/-- The text of a field is the first of a definition that refers to a variable that is unset. -/
def FirstUnset (written : SiteDefinition) (field : String) (reference : Expansion.Unset) : Prop :=
  ∃ before text after, written.variableTexts = before ++ (field, text) :: after ∧
    (∀ entry ∈ before, ∃ result, Expansion.expand valueOf entry.2 = .ok result) ∧
    Expansion.expand valueOf text = .error reference

end Expanded

variable {valueOf : String → Option String}

theorem expandField_eq_ok_iff {field value result : String} :
    expandField valueOf field value = .ok result ↔
      Expansion.expand valueOf value = .ok result := by
  rw [expandField, Outcome.mapError_eq_ok_iff]

theorem expandField_eq_error_iff {field value : String} {error : ConfigError} :
    expandField valueOf field value = .error error ↔
      ∃ reference, Expansion.expand valueOf value = .error reference ∧
        error = .unset field reference := by
  rw [expandField, Outcome.mapError_eq_error_iff]

theorem expandLink_eq_ok_iff {written expanded : SocialLink} :
    expandLink valueOf written = .ok expanded ↔ LinkExpanded valueOf written expanded := by
  simp only [expandLink, Outcome.bind_eq_ok_iff, expandField_eq_ok_iff, Outcome.pure_eq_ok_iff]
  constructor
  · rintro ⟨link, link_eq, rfl⟩
    exact ⟨rfl, link_eq⟩
  · rintro ⟨icon_eq, link_eq⟩
    exact ⟨expanded.link, link_eq, by rw [← icon_eq]⟩

theorem expandLocale_eq_ok_iff {written expanded : LocaleLabels} :
    expandLocale valueOf written = .ok expanded ↔ LabelsExpanded valueOf written expanded := by
  unfold expandLocale expandEditLink
  cases editLink : written.editLink with
  | none =>
      simp only [Except.ok.injEq]
      constructor
      · rintro rfl
        exact .unlinked editLink
      · intro ofLabels
        cases ofLabels with
        | unlinked => rfl
        | linked present => simp [editLink] at present
  | some edit =>
      simp only [Outcome.bind_eq_ok_iff, expandField_eq_ok_iff, Outcome.pure_eq_ok_iff]
      constructor
      · rintro ⟨_, ⟨pattern, pattern_eq, rfl⟩, rfl⟩
        exact .linked editLink pattern_eq
      · intro ofLabels
        cases ofLabels with
        | unlinked absent => simp [editLink] at absent
        | linked present pattern_eq =>
            cases editLink.symm.trans present
            exact ⟨_, ⟨_, pattern_eq, rfl⟩, rfl⟩

theorem expand_eq_ok_iff {written expanded : SiteDefinition} :
    written.expand valueOf = .ok expanded ↔ Expanded valueOf written expanded := by
  simp only [expand, Outcome.bind_eq_ok_iff, expandField_eq_ok_iff, Outcome.mapM_eq_ok_iff,
    expandLink_eq_ok_iff, expandLocale_eq_ok_iff, Outcome.pure_eq_ok_iff]
  constructor
  · rintro ⟨base, base_eq, title, title_eq, links, links_eq, locales, locales_eq, rfl⟩
    exact ⟨base_eq, title_eq, links_eq, locales_eq, rfl⟩
  · rintro ⟨base_eq, title_eq, links_eq, locales_eq, others_eq⟩
    exact ⟨_, base_eq, _, title_eq, _, links_eq, _, locales_eq, others_eq⟩

/-- Whether variables can be put into the text of a field. -/
def checkField (valueOf : String → Option String) (entry : String × String) :
    Except ConfigError Unit :=
  Outcome.verdict (expandField valueOf entry.1 entry.2)

theorem verdict_expandField {field value : String} :
    Outcome.verdict (expandField valueOf field value) =
      [(field, value)].forM (checkField valueOf) := by
  change checkField valueOf (field, value) = _
  rw [List.forM_eq_forM, List.forM_cons]
  cases checkField valueOf (field, value) <;> rfl

theorem verdict_expandLink {social : SocialLink} :
    Outcome.verdict (expandLink valueOf social) =
      (linkTexts social).forM (checkField valueOf) :=
  Outcome.verdict_bind verdict_expandField fun _ => rfl

theorem verdict_expandEditLink {id : String} {edit : EditLink} :
    Outcome.verdict (expandEditLink valueOf id edit) =
      [("locales." ++ id ++ ".edit_link.pattern", edit.pattern)].forM (checkField valueOf) :=
  Outcome.verdict_bind verdict_expandField fun _ => rfl

theorem verdict_expandLocale {labels : LocaleLabels} :
    Outcome.verdict (expandLocale valueOf labels) =
      (patternTexts labels).forM (checkField valueOf) := by
  unfold expandLocale patternTexts
  cases labels.editLink with
  | none => rfl
  | some edit => exact Outcome.verdict_bind verdict_expandEditLink fun _ => rfl

/-- Putting variables in checks the texts that may have some, in their order. -/
theorem verdict_expand {written : SiteDefinition} :
    Outcome.verdict (written.expand valueOf) =
      written.variableTexts.forM (checkField valueOf) := by
  -- One list for each step of the computation, and none for its return.
  have inOrder : written.variableTexts =
      [("site.base", written.site.base)] ++ ([("site.title", written.site.title)] ++
        (written.site.socialLinks.flatMap linkTexts ++
          (written.locales.flatMap patternTexts ++ []))) := by
    simp [variableTexts]
  rw [inOrder]
  apply Outcome.verdict_bind verdict_expandField
  intro base
  apply Outcome.verdict_bind verdict_expandField
  intro title
  apply Outcome.verdict_bind (Outcome.verdict_mapM fun _ => verdict_expandLink)
  intro links
  apply Outcome.verdict_bind (Outcome.verdict_mapM fun _ => verdict_expandLocale)
  intro locales
  rfl

/-- The error is that of the first text that has one. -/
theorem expand_eq_error_iff_first {written : SiteDefinition} {error : ConfigError} :
    written.expand valueOf = .error error ↔
      ∃ before field text after, written.variableTexts = before ++ (field, text) :: after ∧
        (∀ entry ∈ before, ∃ result, expandField valueOf entry.1 entry.2 = .ok result) ∧
        expandField valueOf field text = .error error := by
  rw [← Outcome.verdict_eq_error_iff, verdict_expand, Outcome.forM_eq_error_iff]
  simp only [checkField, Outcome.verdict_eq_ok_iff, Outcome.verdict_eq_error_iff]
  constructor
  · rintro ⟨before, ⟨field, text⟩, after, split, earlier, failed⟩
    exact ⟨before, field, text, after, split, earlier, failed⟩
  · rintro ⟨before, field, text, after, split, earlier, failed⟩
    exact ⟨before, (field, text), after, split, earlier, failed⟩

theorem expand_eq_error_iff {written : SiteDefinition} {error : ConfigError} :
    written.expand valueOf = .error error ↔
      ∃ field reference, FirstUnset valueOf written field reference ∧
        error = .unset field reference := by
  rw [expand_eq_error_iff_first]
  simp only [expandField_eq_ok_iff, expandField_eq_error_iff]
  constructor
  · rintro ⟨before, field, text, after, split, earlier, reference, missing, rfl⟩
    exact ⟨field, reference, ⟨before, text, after, split, earlier, missing⟩, rfl⟩
  · rintro ⟨field, reference, ⟨before, text, after, split, earlier, missing⟩, rfl⟩
    exact ⟨before, field, text, after, split, earlier, reference, missing, rfl⟩

theorem exists_expand_iff {written : SiteDefinition} :
    (∃ expanded, written.expand valueOf = .ok expanded) ↔
      ∀ entry ∈ written.variableTexts,
        ∃ result, expandField valueOf entry.1 entry.2 = .ok result := by
  rw [← Outcome.verdict_eq_ok_iff, verdict_expand, Outcome.forM_eq_ok_iff]
  simp only [checkField, Outcome.verdict_eq_ok_iff]

/-- The texts of a definition that may refer to variables, by the places where they stand. -/
theorem forall_mem_variableTexts {written : SiteDefinition} {holds : String × String → Prop} :
    (∀ entry ∈ written.variableTexts, holds entry) ↔
      holds ("site.base", written.site.base) ∧ holds ("site.title", written.site.title) ∧
        (∀ social ∈ written.site.socialLinks, holds ("site.social_links.link", social.link)) ∧
        ∀ labels ∈ written.locales, ∀ edit, labels.editLink = some edit →
          holds ("locales." ++ labels.id ++ ".edit_link.pattern", edit.pattern) := by
  simp only [variableTexts, linkTexts, patternTexts, List.cons_append, List.forall_mem_cons,
    List.forall_mem_append, List.forall_mem_flatMap, List.forall_mem_map, Option.mem_toList,
    List.not_mem_nil, false_imp_iff, implies_true, and_true]

/-- Variables are put into a definition when they can be put into each of its texts that may refer
to some; nothing else changes then. Otherwise the error is that of the first of these texts, in
their order, that has one. -/
theorem expand_changes_variableTexts (valueOf : String → Option String)
    (written : SiteDefinition) :
    ((∃ expanded, written.expand valueOf = .ok expanded) ↔
      (∃ base, expandField valueOf "site.base" written.site.base = .ok base) ∧
      (∃ title, expandField valueOf "site.title" written.site.title = .ok title) ∧
      (∀ social ∈ written.site.socialLinks,
        ∃ link, expandField valueOf "site.social_links.link" social.link = .ok link) ∧
      ∀ labels ∈ written.locales, ∀ edit, labels.editLink = some edit →
        ∃ pattern, expandField valueOf ("locales." ++ labels.id ++ ".edit_link.pattern")
          edit.pattern = .ok pattern) ∧
    (∀ expanded, written.expand valueOf = .ok expanded ↔ Expanded valueOf written expanded) ∧
    ∀ error, written.expand valueOf = .error error ↔
      ∃ before field text after, written.variableTexts = before ++ (field, text) :: after ∧
        (∀ entry ∈ before, ∃ result, expandField valueOf entry.1 entry.2 = .ok result) ∧
        expandField valueOf field text = .error error := by
  exact ⟨exists_expand_iff.trans forall_mem_variableTexts, fun _ => expand_eq_ok_iff,
    fun _ => expand_eq_error_iff_first⟩

end LocaleSite.SiteDefinition
