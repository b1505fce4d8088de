import LocaleSite.Proofs.Nav.Encoding
import LocaleSite.Proofs.Sidebar.Encoding
import LocaleSite.Proofs.Site.Namespaces
import LocaleSite.Site.Encoding

/-!
# Written sites

What the text of a composed site tells. The site's own text tells everything. The text for the
renderer tells all but two things: the footer of the settings, which every locale without a footer
already has as its own, and the id of the root locale, which stands under the key `root`.

A written locale does not say whether it is the root; in a composed site its key does.
-/

namespace LocaleSite

/-! ## Settings -/

theorem SocialIcon.name_injective : Function.Injective name := by
  intro left right
  cases left <;> cases right <;> decide

theorem SearchProvider.name_injective : Function.Injective name := by
  intro left right
  cases left <;> cases right <;> decide

namespace SocialLink

theorem faithful_toValue : Value.Faithful toValue where
  plain := by
    intro social
    exact .table (by simp) (by simp [Value.Plain.string])
  inj := by
    rintro ⟨icon, link⟩ ⟨otherIcon, otherLink⟩ same
    simpa [toValue, SocialIcon.name_injective.eq_iff] using same

end SocialLink

namespace SearchConfig

theorem faithful_toValue : Value.Faithful toValue where
  plain := by
    intro search
    exact .table (by simp) (by simp [Value.Plain.string])
  inj := by
    rintro ⟨provider⟩ ⟨other⟩ same
    simpa [toValue, SearchProvider.name_injective.eq_iff] using same

end SearchConfig

namespace Footer

theorem faithful_toValue : Value.Faithful toValue where
  plain := by
    intro footer
    exact Value.plain_ofFields (by simp) (by simp [Value.Plain.string])
  inj := by
    rintro ⟨message, copyright⟩ ⟨otherMessage, otherCopyright⟩ same
    have sameFields := Value.ofFields_inj same rfl (by simp)
    simpa [Value.faithful_string.option_eq_iff] using sameFields

end Footer

namespace EditLink

theorem faithful_toValue : Value.Faithful toValue where
  plain := by
    intro edit
    exact .table (by simp) (by simp [Value.Plain.string])
  inj := by
    rintro ⟨pattern, text⟩ ⟨otherPattern, otherText⟩ same
    simpa [toValue] using same

end EditLink

namespace BaseConfig

theorem fields_injective : Function.Injective fields := by
  intro left right same
  cases left
  cases right
  simpa [fields, Value.faithful_string.option_eq_iff, Footer.faithful_toValue.option_eq_iff,
    SocialLink.faithful_toValue.inj.list_map.eq_iff, SearchConfig.faithful_toValue.eq_iff]
    using same

theorem plain_of_mem_fields {config : BaseConfig} :
    ∀ field ∈ config.fields, ∀ value ∈ field.2, value.Plain := by
  have plainLinks := SocialLink.faithful_toValue.list.plain config.socialLinks
  simp [fields, Value.Plain.string, Value.Plain.bool, plainLinks,
    SearchConfig.faithful_toValue.plain, Footer.faithful_toValue.plain]

theorem plain_hostTheme (config : BaseConfig) : config.hostTheme.Plain := by
  have plainLinks := SocialLink.faithful_toValue.list.plain config.socialLinks
  exact .table (by simp) (by simp [plainLinks, SearchConfig.faithful_toValue.plain])

theorem hostTheme_eq_iff {left right : BaseConfig} :
    left.hostTheme = right.hostTheme ↔
      left.socialLinks = right.socialLinks ∧ left.search = right.search := by
  simp [hostTheme, SocialLink.faithful_toValue.inj.list_map.eq_iff,
    SearchConfig.faithful_toValue.eq_iff]

end BaseConfig

/-! ## Locales -/

namespace LocaleBlock

theorem plain_toValue (block : LocaleBlock) : block.toValue.Plain := by
  apply Value.plain_ofFields (by simp)
  simp [Value.Plain.string, NavTree.faithful_toValue.plain, Sidebar.faithful_toValue.plain,
    EditLink.faithful_toValue.plain, Footer.faithful_toValue.plain]

/-- A written locale tells all of it but whether it is the root. -/
theorem toValue_eq_iff {left right : LocaleBlock} :
    left.toValue = right.toValue ↔ { left with root := right.root } = right := by
  constructor
  · intro same
    have sameFields := Value.ofFields_inj same rfl (by simp)
    cases left
    cases right
    simpa [Value.faithful_string.option_eq_iff, NavTree.faithful_toValue.eq_iff,
      Sidebar.faithful_toValue.eq_iff, EditLink.faithful_toValue.option_eq_iff,
      Footer.faithful_toValue.option_eq_iff] using sameFields
  · intro same
    rw [← same]
    rfl

theorem plain_hostTheme (block : LocaleBlock) : block.hostTheme.Plain := by
  apply Value.plain_ofFields (by simp)
  simp [NavTree.faithful_toValue.plain, Sidebar.faithful_hostValue.plain,
    EditLink.faithful_toValue.plain, Footer.faithful_toValue.plain]

theorem hostTheme_eq_iff {left right : LocaleBlock} :
    left.hostTheme = right.hostTheme ↔ left.nav = right.nav ∧ left.sidebar = right.sidebar ∧
      left.editLink = right.editLink ∧ left.footer = right.footer := by
  constructor
  · intro same
    have sameFields := Value.ofFields_inj same rfl (by simp)
    simpa [NavTree.faithful_toValue.eq_iff, Sidebar.faithful_hostValue.eq_iff,
      EditLink.faithful_toValue.option_eq_iff, Footer.faithful_toValue.option_eq_iff]
      using sameFields
  · rintro ⟨sameNav, sameSidebar, sameEditLink, sameFooter⟩
    rw [hostTheme, sameNav, sameSidebar, sameEditLink, sameFooter]
    rfl

theorem plain_hostValue (block : LocaleBlock) : block.hostValue.Plain := by
  apply Value.plain_ofFields (by simp)
  simp [Value.Plain.string, plain_hostTheme]

/-- A locale written for the renderer tells all of it but its id and whether it is the root. -/
theorem hostValue_eq_iff {left right : LocaleBlock} :
    left.hostValue = right.hostValue ↔
      { left with id := right.id, root := right.root } = right := by
  constructor
  · intro same
    have sameFields := Value.ofFields_inj same rfl (by simp)
    simp only [List.cons.injEq, Prod.mk.injEq, true_and, and_true, Option.some.injEq,
      Value.string.injEq, Value.faithful_string.option_eq_iff, hostTheme_eq_iff] at sameFields
    rcases sameFields with ⟨sameLabel, sameLang, sameTitle, sameDescription, sameTheme⟩
    rcases sameTheme with ⟨sameNav, sameSidebar, sameEditLink, sameFooter⟩
    rw [sameLabel, sameLang, sameTitle, sameDescription, sameNav, sameSidebar, sameEditLink,
      sameFooter]
  · intro same
    rw [← same]
    rfl

end LocaleBlock

/-! ## Sites -/

namespace Site

variable {left right : Site}

theorem plain_toValue (site : Site) : site.toValue.Plain := by
  have plainLocales : site.localesValue.Plain :=
    Value.plain_table_mapValues LocaleBlock.plain_toValue site.locales
  apply Value.plain_ofFields (by simp [BaseConfig.fields])
  intro field field_mem
  rcases List.mem_append.1 field_mem with inBase | atEnd
  · exact BaseConfig.plain_of_mem_fields field inBase
  · rw [List.mem_singleton.1 atEnd]
    simp [plainLocales]

/-- A written site tells all of it but which of its locales are roots. -/
theorem toValue_eq_iff :
    left.toValue = right.toValue ↔
      left.base = right.base ∧ left.locales.keys = right.locales.keys ∧
        ∀ {key leftLocale rightLocale}, left.locale? key = some leftLocale →
          right.locale? key = some rightLocale →
            { leftLocale with root := rightLocale.root } = rightLocale := by
  have localesIff : left.localesValue = right.localesValue ↔
      left.locales.mapValues LocaleBlock.toValue = right.locales.mapValues LocaleBlock.toValue := by
    rw [localesValue, localesValue, Value.table.injEq, KeyMap.ext_iff]
    rfl
  simp only [← LocaleBlock.toValue_eq_iff]
  constructor
  · intro same
    have sameFields := Value.ofFields_inj same rfl (by simp [BaseConfig.fields])
    rcases List.append_inj sameFields rfl with ⟨sameBase, sameLocales⟩
    simp only [List.cons.injEq, Prod.mk.injEq, true_and, and_true, Option.some.injEq,
      localesIff] at sameLocales
    exact ⟨BaseConfig.fields_injective sameBase, KeyMap.mapValues_eq_iff.1 sameLocales⟩
  · rintro ⟨sameBase, sameLocales⟩
    rw [toValue, sameBase, localesIff.2 (KeyMap.mapValues_eq_iff.2 sameLocales)]
    rfl

theorem plain_hostValue (site : Site) : site.hostValue.Plain := by
  have plainLocales := Value.plain_table_mapValues LocaleBlock.plain_hostValue site.locales
  apply Value.plain_ofFields (by simp)
  simp only [KeyMap.mapValues] at plainLocales
  simp [Value.Plain.string, Value.Plain.bool, BaseConfig.plain_hostTheme, plainLocales]

/-- A site written for the renderer tells all of it but the footer of the settings and, of each
locale, its id and whether it is the root. -/
theorem hostValue_eq_iff :
    left.hostValue = right.hostValue ↔
      { left.base with footer := right.base.footer } = right.base ∧
        left.locales.keys = right.locales.keys ∧
        ∀ {key leftLocale rightLocale}, left.locale? key = some leftLocale →
          right.locale? key = some rightLocale →
            { leftLocale with id := rightLocale.id, root := rightLocale.root } = rightLocale := by
  have localesIff : left.locales.entries.map (fun entry => (entry.1, entry.2.hostValue)) =
      right.locales.entries.map (fun entry => (entry.1, entry.2.hostValue)) ↔
        left.locales.mapValues LocaleBlock.hostValue =
          right.locales.mapValues LocaleBlock.hostValue := by
    rw [KeyMap.ext_iff]
    rfl
  simp only [← LocaleBlock.hostValue_eq_iff]
  constructor
  · intro same
    have sameFields := Value.ofFields_inj same rfl (by simp)
    simp only [List.cons.injEq, Prod.mk.injEq, true_and, and_true, Option.some.injEq,
      Value.string.injEq, Value.bool.injEq, Value.table.injEq, Value.faithful_string.option_eq_iff,
      BaseConfig.hostTheme_eq_iff, localesIff, KeyMap.mapValues_eq_iff] at sameFields
    rcases sameFields with ⟨sameBase, sameTitle, sameDescription, sameUpdated, sameUrls, sameChunk,
      ⟨sameLinks, sameSearch⟩, sameLocales⟩
    refine ⟨?_, sameLocales⟩
    rw [sameBase, sameTitle, sameDescription, sameUpdated, sameUrls, sameChunk, sameLinks,
      sameSearch]
  · rintro ⟨sameBase, sameLocales⟩
    rw [hostValue, localesIff.2 (KeyMap.mapValues_eq_iff.2 sameLocales), hostValue, ← sameBase]
    rfl

/-- Two sites that differ at most in the footer of the settings and the id of the root locale. -/
structure SameForRenderer (left right : Site) : Prop where
  base : { left.base with footer := right.base.footer } = right.base
  keys : left.locales.keys = right.locales.keys
  root : ∀ {leftRoot rightRoot}, left.root? = some leftRoot → right.root? = some rightRoot →
    { leftRoot with id := rightRoot.id } = rightRoot
  others : ∀ {key leftLocale rightLocale}, key ≠ LocaleBlock.rootKey →
    left.locale? key = some leftLocale → right.locale? key = some rightLocale →
      leftLocale = rightLocale

namespace WellFormed

theorem root_eq (leftFormed : left.WellFormed) (rightFormed : right.WellFormed) {key : String}
    {leftLocale rightLocale : LocaleBlock} (leftHere : left.locale? key = some leftLocale)
    (rightHere : right.locale? key = some rightLocale) : leftLocale.root = rightLocale.root := by
  rw [Bool.eq_iff_iff, leftFormed.root_iff leftHere, rightFormed.root_iff rightHere]

theorem toValue_eq_iff (leftFormed : left.WellFormed) (rightFormed : right.WellFormed) :
    left.toValue = right.toValue ↔ left = right := by
  constructor
  · intro same
    rcases Site.toValue_eq_iff.1 same with ⟨sameBase, sameKeys, sameLocales⟩
    have sameMap : left.locales = right.locales := by
      apply KeyMap.ext_keys sameKeys
      intro key leftLocale rightLocale leftHere rightHere
      have sameLocale := sameLocales leftHere rightHere
      rwa [← leftFormed.root_eq rightFormed leftHere rightHere] at sameLocale
    change Site.mk left.base left.locales = right
    rw [sameBase, sameMap]
  · rintro rfl
    rfl

theorem hostValue_eq_iff (leftFormed : left.WellFormed) (rightFormed : right.WellFormed) :
    left.hostValue = right.hostValue ↔ left.SameForRenderer right := by
  constructor
  · intro same
    rcases Site.hostValue_eq_iff.1 same with ⟨sameBase, sameKeys, sameLocales⟩
    refine ⟨sameBase, sameKeys, ?_, ?_⟩
    · intro leftRoot rightRoot leftHere rightHere
      have sameRoot := sameLocales leftHere rightHere
      rwa [← leftFormed.root_eq rightFormed leftHere rightHere] at sameRoot
    · intro key leftLocale rightLocale notRoot leftHere rightHere
      have sameLocale := sameLocales leftHere rightHere
      rwa [← leftFormed.root_eq rightFormed leftHere rightHere,
        rightFormed.id_eq rightHere notRoot, ← leftFormed.id_eq leftHere notRoot] at sameLocale
  · intro same
    refine Site.hostValue_eq_iff.2 ⟨same.base, same.keys, ?_⟩
    intro key leftLocale rightLocale leftHere rightHere
    by_cases atRoot : key = LocaleBlock.rootKey
    · subst atRoot
      have sameRoot := same.root leftHere rightHere
      rwa [← leftFormed.root_eq rightFormed leftHere rightHere]
    · rw [same.others atRoot leftHere rightHere]

end WellFormed

/-- The renderer's texts of two composed sites are the same just when the sites differ at most in
the footer of the settings and the id of the root locale; their own texts, just when they are
equal. -/
theorem texts_eq_iff_of_compose {leftPattern rightPattern : String → Bool}
    {leftBase rightBase : BaseConfig} {leftBlocks rightBlocks : List LocaleBlock}
    (leftComposed : compose leftPattern leftBase leftBlocks = .ok left)
    (rightComposed : compose rightPattern rightBase rightBlocks = .ok right) :
    (Json.compact left.hostValue = Json.compact right.hostValue ↔ left.SameForRenderer right) ∧
      (Json.compact left.toValue = Json.compact right.toValue ↔ left = right) := by
  have leftFormed := wellFormed_of_compose leftComposed
  have rightFormed := wellFormed_of_compose rightComposed
  constructor
  · rw [← leftFormed.hostValue_eq_iff rightFormed]
    constructor
    · exact Json.compact_inj left.plain_hostValue right.plain_hostValue
    · exact congrArg Json.compact
  · rw [← leftFormed.toValue_eq_iff rightFormed]
    constructor
    · exact Json.compact_inj left.plain_toValue right.plain_toValue
    · exact congrArg Json.compact

/-! ## Two sites with one text for the renderer -/

/-- Settings with a footer. -/
def footedBase (message : String) : BaseConfig :=
  { guideBase with footer := some ⟨some message, none⟩ }

/-- A root locale and another one, both with footers of their own. -/
def footedBlocks (rootId : String) : List LocaleBlock :=
  [{ LocaleBlock.guide "en" true "" [⟨"\"Start\"", "start"⟩] ⟨by decide, by decide⟩ with
      id := rootId, footer := some ⟨none, some "2024"⟩ },
    { LocaleBlock.guide "zh" false "/zh" [⟨"开始", "start"⟩] ⟨by decide, by decide⟩ with
      footer := some ⟨some "页脚", none⟩ }]

theorem texts_of_footed_sites :
    ∃ left right, compose (fun _ => true) (footedBase "left") (footedBlocks "en") = .ok left ∧
      compose (fun _ => true) (footedBase "right") (footedBlocks "fr") = .ok right ∧
      Json.compact left.hostValue = Json.compact right.hostValue ∧ left.SameForRenderer right ∧
      left ≠ right ∧ Json.compact left.toValue ≠ Json.compact right.toValue := by
  let left := publish (footedBase "left") (footedBlocks "en")
  let right := publish (footedBase "right") (footedBlocks "fr")
  have leftComposed : compose (fun _ => true) (footedBase "left") (footedBlocks "en") = .ok left :=
    rfl
  have rightComposed :
      compose (fun _ => true) (footedBase "right") (footedBlocks "fr") = .ok right := rfl
  have sameValue : left.hostValue = right.hostValue := rfl
  have sameText := congrArg Json.compact sameValue
  have differ : left ≠ right := by
    intro same
    exact absurd (congrArg (·.base.footer) same) (by decide)
  have tells := texts_eq_iff_of_compose leftComposed rightComposed
  refine ⟨left, right, leftComposed, rightComposed, sameText, tells.1.1 sameText, differ, ?_⟩
  intro sameOwnText
  exact differ (tells.2.1 sameOwnText)

end Site

end LocaleSite
