import LocaleSite.Proofs.Definition.Discovery
import LocaleSite.Proofs.Definition.Reading
import LocaleSite.Proofs.Site.Faults

/-!
# Loading the definition of a site

The definition is found and read, or built in. Then arguments override, and the settings are
checked. `SiteDefinition.Loads` says how this ends, with one case for each stage that may fail.
-/

namespace LocaleSite

namespace BaseConfig

theorem validate_eq_ok_iff {config : BaseConfig} :
    config.validate = .ok () ↔ isWrapped config.base = true ∧ config.title ≠ "" ∧
      ∀ social ∈ config.socialLinks, social.isWeb = true := by
  have web : (config.socialLinks.any fun social => !social.isWeb) = false ↔
      ∀ social ∈ config.socialLinks, social.isWeb = true := by simp
  rw [validate, ← web, ← String.isEmpty_eq_false_iff]
  cases isWrapped config.base <;> cases config.title.isEmpty <;>
    cases config.socialLinks.any fun social => !social.isWeb <;> simp

end BaseConfig

/-- Composing does not find fault with settings that have been checked. -/
theorem Site.composeLabels_ne_base {isPattern : String → Bool} {base : BaseConfig}
    {labels : List LocaleLabels} {date : Date} (valid : base.validate = .ok ())
    (error : BaseError) : composeLabels isPattern base labels date ≠ .error (.base error) := by
  intro failed
  rw [composeLabels, Outcome.bind_eq_error_iff] at failed
  rcases failed with unbuilt | ⟨blocks, _, unfit⟩
  · rcases Outcome.exists_of_mapM_eq_error unbuilt with ⟨entry, _, unbuilt⟩
    rcases Outcome.mapError_eq_error_iff.1 unbuilt with ⟨fault, _, same⟩
    cases fault <;> cases same
  · cases fault_of_compose unfit with
    | base invalid =>
        rw [valid] at invalid
        cases invalid
    | ofSet fault => cases fault
    | ofLocale _ _ _ fault => cases fault

namespace SiteDefinition

/-- What is declared before arguments override: by a file with its variables put in, or else what
is built in. -/
inductive Declares (world : World) (config : Option String) : SiteDefinition → Prop where
  | file {path : String} {entry : FileEntry} {written expanded : SiteDefinition}
      (located : Locates world config (some (path, entry))) (writes : Writes entry written)
      (expands : Expanded world.text? written expanded) :
      Declares world config { expanded with configPath := some path }
  | builtin (located : Locates world config none) : Declares world config builtin

/-- The base path and the title are those of the arguments where given, and all else is kept. -/
structure Overridden (overrides : Overrides) (declared result : SiteDefinition) : Prop where
  base_eq : result.site.base = overrides.base.getD declared.site.base
  title_eq : result.site.title = overrides.title.getD declared.site.title
  others_eq : result = { declared with
    site := { declared.site with base := result.site.base, title := result.site.title } }

/-- How loading ends. -/
inductive Loads (world : World) (config : Option String) (overrides : Overrides) :
    Except ConfigError SiteDefinition → Prop where
  | notFound {path : String} (given : config = some path) (absent : world.entry? path = none) :
      Loads world config overrides (.error (.notFound path))
  | file {path : String} {entry : FileEntry} {error : ConfigError}
      (located : Locates world config (some (path, entry))) (fault : FileFault world entry error) :
      Loads world config overrides (.error error)
  | invalid {declared result : SiteDefinition} {error : BaseError}
      (declares : Declares world config declared)
      (overridden : Overridden overrides declared result)
      (failed : result.site.validate = .error error) :
      Loads world config overrides (.error (.validation error))
  | loaded {declared result : SiteDefinition} (declares : Declares world config declared)
      (overridden : Overridden overrides declared result)
      (valid : result.site.validate = .ok ()) : Loads world config overrides (.ok result)

section Load

variable {world : World} {config : Option String} {overrides : Overrides}

theorem overridden_iff {declared result : SiteDefinition} :
    Overridden overrides declared result ↔ result = declared.override overrides := by
  constructor
  · rintro ⟨base_eq, title_eq, others_eq⟩
    rw [others_eq, base_eq, title_eq, override]
  · rintro rfl
    exact ⟨rfl, rfl, rfl⟩

theorem declares_iff {declared : SiteDefinition} :
    Declares world config declared ↔
      ∃ source, source? world config = .ok source ∧ ofSource world source = .ok declared := by
  simp only [source?_eq_ok_iff]
  constructor
  · intro declares
    cases declares with
    | file located writes expands =>
        exact ⟨_, located, ofFile_eq_ok_iff.2 ⟨_, _, writes, expands, rfl⟩⟩
    | builtin located => exact ⟨none, located, rfl⟩
  · rintro ⟨_ | ⟨path, entry⟩, located, read⟩
    · cases read
      exact .builtin located
    · rcases ofFile_eq_ok_iff.1 read with ⟨_, _, writes, expands, rfl⟩
      exact .file located writes expands

theorem load_eq_of_declares {declared : SiteDefinition}
    (declares : Declares world config declared) :
    load world config overrides =
      match (declared.override overrides).site.validate with
      | .ok _ => .ok (declared.override overrides)
      | .error error => .error (.validation error) := by
  rcases declares_iff.1 declares with ⟨source, located, read⟩
  rw [load, located]
  simp only [bind, Except.bind, read]
  cases (declared.override overrides).site.validate <;> rfl

theorem loads_load : Loads world config overrides (load world config overrides) := by
  cases located : source? world config with
  | error error =>
      rcases source?_eq_error_iff.1 located with ⟨path, given, absent, rfl⟩
      rw [load, located]
      exact .notFound given absent
  | ok source =>
      cases read : ofSource world source with
      | error error =>
          rw [load, located]
          simp only [bind, Except.bind, read]
          cases source with
          | none => cases read
          | some found => exact .file (source?_eq_ok_iff.1 located) (fileFault_of_ofFile read)
      | ok declared =>
          have declares := declares_iff.2 ⟨source, located, read⟩
          rw [load_eq_of_declares declares]
          cases checked : (declared.override overrides).site.validate with
          | error error => exact .invalid declares (overridden_iff.2 rfl) checked
          | ok => exact .loaded declares (overridden_iff.2 rfl) checked

theorem Loads.load_eq {outcome : Except ConfigError SiteDefinition}
    (loads : Loads world config overrides outcome) : load world config overrides = outcome := by
  cases loads with
  | notFound given absent =>
      rw [load, source?_eq_error_iff.2 ⟨_, given, absent, rfl⟩]
      rfl
  | file located fault =>
      rw [load, source?_eq_ok_iff.2 located]
      simp only [bind, Except.bind, ofSource, fault.ofFile_eq]
  | invalid declares overridden failed =>
      rw [overridden_iff.1 overridden] at failed
      rw [load_eq_of_declares declares, failed]
  | loaded declares overridden valid =>
      rw [overridden_iff.1 overridden] at valid ⊢
      rw [load_eq_of_declares declares, valid]

theorem load_eq_iff {outcome : Except ConfigError SiteDefinition} :
    load world config overrides = outcome ↔ Loads world config overrides outcome := by
  constructor
  · rintro rfl
    exact loads_load
  · exact Loads.load_eq

theorem load_eq_notFound_iff {path : String} :
    load world config overrides = .error (.notFound path) ↔
      config = some path ∧ world.entry? path = none := by
  rw [load_eq_iff]
  constructor
  · intro loads
    cases loads with
    | notFound given absent => exact ⟨given, absent⟩
    | file _ fault => cases fault
  · rintro ⟨given, absent⟩
    exact .notFound given absent

theorem validate_eq_ok_of_load {definition : SiteDefinition}
    (loaded : load world config overrides = .ok definition) :
    definition.site.validate = .ok () := by
  cases load_eq_iff.1 loaded with
  | loaded _ _ valid => exact valid

/-- Of what is declared, the base path and the title count only where no argument overrides. -/
theorem exists_load_iff_of_declares {declared : SiteDefinition}
    (declares : Declares world config declared) :
    (∃ definition, load world config overrides = .ok definition) ↔
      BaseConfig.isWrapped (overrides.base.getD declared.site.base) = true ∧
        overrides.title.getD declared.site.title ≠ "" ∧
        ∀ social ∈ declared.site.socialLinks, social.isWeb = true := by
  have checked : (declared.override overrides).site.validate = .ok () ↔ _ :=
    BaseConfig.validate_eq_ok_iff
  rw [load_eq_of_declares declares]
  refine Iff.trans ?_ checked
  cases (declared.override overrides).site.validate <;> simp

end Load

/-- Loading ends as its stages say. Nothing is found just when nothing stands at a given path, a
base path and a title that are overridden need not be valid, and what is loaded has been checked,
so that composing it does not find fault with its settings. -/
theorem load_eq_iff_loads (world : World) (config : Option String) (overrides : Overrides) :
    (∀ outcome, load world config overrides = outcome ↔ Loads world config overrides outcome) ∧
    (∀ path, load world config overrides = .error (.notFound path) ↔
      config = some path ∧ world.entry? path = none) ∧
    (∀ declared, Declares world config declared →
      ((∃ definition, load world config overrides = .ok definition) ↔
        BaseConfig.isWrapped (overrides.base.getD declared.site.base) = true ∧
          overrides.title.getD declared.site.title ≠ "" ∧
          ∀ social ∈ declared.site.socialLinks, social.isWeb = true)) ∧
    ∀ definition, load world config overrides = .ok definition →
      definition.site.validate = .ok () ∧ ∀ isPattern date error,
        Site.composeLabels isPattern definition.site definition.locales date ≠
          .error (.base error) := by
  refine ⟨fun _ => load_eq_iff, fun _ => load_eq_notFound_iff,
    fun _ => exists_load_iff_of_declares, ?_⟩
  intro definition loaded
  have valid := validate_eq_ok_of_load loaded
  exact ⟨valid, fun _ _ => Site.composeLabels_ne_base valid⟩

/-- A directory without a definition, below one whose definition has no valid base path. -/
def guideWorld : World where
  entry? path :=
    if path = "/work/docmux.toml" then
      some (.file "[site]\nbase = \"docs\"\ntitle = \"${NAME:-The} Guide\"\n".toUTF8)
    else none
  directory := ["work", "guide"]
  environment? _ := none

/-- The base path is refused as it stands and does no harm where an argument gives another. -/
theorem load_eq_iff_loads_guideWorld :
    ∃ declared, Declares guideWorld none declared ∧
      (¬∃ definition, load guideWorld none ⟨none, none⟩ = .ok definition) ∧
      ∃ definition, load guideWorld none ⟨some "/docs/", none⟩ = .ok definition ∧
        definition.site.validate = .ok () := by
  have shown : ((source? guideWorld none >>= ofSource guideWorld).toOption.map fun declared =>
      (declared.site.base, declared.site.title, declared.site.socialLinks)) =
        some ("docs", "The Guide", []) := by
    decide +kernel
  cases read : source? guideWorld none >>= ofSource guideWorld with
  | error error =>
      rw [read] at shown
      cases shown
  | ok declared =>
      rw [read] at shown
      simp only [Except.toOption, Option.map_some, Option.some.injEq, Prod.mk.injEq] at shown
      rcases shown with ⟨base_eq, title_eq, links_eq⟩
      have declares := declares_iff.2 (Outcome.bind_eq_ok_iff.1 read)
      have asItStands := (load_eq_iff_loads guideWorld none ⟨none, none⟩).2.2.1 declared declares
      rcases load_eq_iff_loads guideWorld none ⟨some "/docs/", none⟩ with ⟨_, _, ends, valid⟩
      have wrapped : BaseConfig.isWrapped "/docs/" = true := by decide
      have overridden := (ends declared declares).2
        ⟨wrapped, by simp [title_eq], by simp [links_eq]⟩
      rcases overridden with ⟨definition, loaded⟩
      refine ⟨declared, declares, ?_, definition, loaded, (valid definition loaded).1⟩
      intro loads
      have baseWrapped := (asItStands.1 loads).1
      rw [Option.getD_none, base_eq] at baseWrapped
      exact absurd baseWrapped (by decide)

end SiteDefinition

end LocaleSite
