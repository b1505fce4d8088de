import LocaleSite.Expansion
import LocaleSite.Labels.Builtin
import LocaleSite.Toml.Reader
import LocaleSite.World

/-!
# Site definitions

A site is defined by a TOML file with its settings and the labels of its locales. `load` finds the
file, reads it, puts variables into its texts, lets arguments override the base path and the
title, and checks the settings; the first of these stages that fails gives the fault. Without a
file the built-in site is used.
-/

namespace LocaleSite

/-- The settings of a site and the labels of its locales. -/
structure SiteDefinition where
  site : BaseConfig
  locales : List LocaleLabels
  /-- The file the definition was read from. -/
  configPath : Option String
deriving Repr

/-- Values that replace those of the definition. -/
structure Overrides where
  base : Option String
  title : Option String
deriving DecidableEq, Repr

/-- Why a file cannot be read as text. -/
inductive FileError where
  | isDirectory
  /-- The system refuses to read the file. -/
  | unreadable (reason : String)
  | notText
deriving DecidableEq, Repr

/-- The text shown for a file that cannot be read. -/
def FileError.message : FileError → String
  | .isDirectory => "Is a directory (os error 21)"
  | .unreadable reason => reason
  | .notText => "stream did not contain valid UTF-8"

/-- Why a site definition cannot be loaded. -/
inductive ConfigError where
  | notFound (path : String)
  | file (error : FileError)
  /-- The document is not TOML. -/
  | malformed
  | shape (error : ShapeError)
  | validation (error : BaseError)
  /-- A field refers to a variable that is unset. -/
  | unset (field : String) (reference : Expansion.Unset)

/-- The text shown for a definition that cannot be loaded. -/
def ConfigError.message : ConfigError → String
  | .notFound path => s!"Site definition not found: {path}"
  | .file error => s!"I/O error: {error.message}"
  | .malformed => "TOML parse error: malformed document"
  | .shape error =>
      "TOML parse error: " ++ (error.message .toml).getD "value does not fit its field"
  | .validation error => s!"Configuration error: {error.message}"
  | .unset field reference =>
      s!"Environment variable error in {field}: " ++ "$\x7b" ++ reference.name ++ "\x7d not set"

namespace SiteDefinition

def builtin : SiteDefinition where
  site := .builtin
  locales := [.english, .chinese]
  configPath := none

/-- The settings of a site and the labels of its locales, both with defaults. -/
def shape : Shape SiteDefinition :=
  Record.start (fun site locales => SiteDefinition.mk site locales none)
    |>.field (.withDefault "site" BaseConfig.shape .initial)
    |>.field (.withDefault "locales" LocaleLabels.shape.list [])
    |>.shape "SiteDefinition"

/-- The name of the file a site is defined in. -/
def fileName : String := "docmux.toml"

/-- The value of a field with its variables put in. -/
def expandField (valueOf : String → Option String) (field value : String) :
    Except ConfigError String :=
  (Expansion.expand valueOf value).mapError (.unset field)

/-- A social link with variables put into its address. -/
def expandLink (valueOf : String → Option String) (social : SocialLink) :
    Except ConfigError SocialLink := do
  let link ← expandField valueOf "site.social_links.link" social.link
  return { social with link }

/-- A link to edit pages with variables put into its pattern. -/
def expandEditLink (valueOf : String → Option String) (id : String) (edit : EditLink) :
    Except ConfigError EditLink := do
  let pattern ← expandField valueOf ("locales." ++ id ++ ".edit_link.pattern") edit.pattern
  return { edit with pattern }

/-- Labels with variables put into the pattern of their link to edit pages, if they have one. -/
def expandLocale (valueOf : String → Option String) (labels : LocaleLabels) :
    Except ConfigError LocaleLabels :=
  match labels.editLink with
  | none => .ok labels
  | some edit => do
      let edit ← expandEditLink valueOf labels.id edit
      return { labels with editLink := some edit }

/-- The definition with variables put into the base path, the title, the addresses of the social
links and the patterns of the links to edit pages, in this order. -/
def expand (valueOf : String → Option String) (definition : SiteDefinition) :
    Except ConfigError SiteDefinition := do
  let base ← expandField valueOf "site.base" definition.site.base
  let title ← expandField valueOf "site.title" definition.site.title
  let socialLinks ← definition.site.socialLinks.mapM (expandLink valueOf)
  let locales ← definition.locales.mapM (expandLocale valueOf)
  return { definition with site := { definition.site with base, title, socialLinks }, locales }

/-- The text of a file. -/
def textOf : FileEntry → Except FileError String
  | .directory => .error .isDirectory
  | .unreadable reason => .error (.unreadable reason)
  | .file content =>
      match String.fromUTF8? content with
      | some text => .ok text
      | none => .error .notText

def ofText (text : String) : Except ConfigError SiteDefinition :=
  match Toml.read? text with
  | none => .error .malformed
  | some value => (shape .toml value).mapError .shape

def ofFile (world : World) (path : String) (entry : FileEntry) :
    Except ConfigError SiteDefinition := do
  let text ← (textOf entry).mapError .file
  let definition ← ofText text
  let definition ← definition.expand world.text?
  return { definition with configPath := some path }

/-- The file of the nearest directory that has one, from the current directory upwards. -/
def discover (world : World) : Option (String × FileEntry) :=
  world.directory.ancestors.findSome? fun directory =>
    (world.entry? (directory.file fileName)).map (directory.file fileName, ·)

/-- The path of the file to read, with what stands there. -/
def source? (world : World) (config : Option String) :
    Except ConfigError (Option (String × FileEntry)) :=
  match config with
  | some path =>
      match world.entry? path with
      | some entry => .ok (some (path, entry))
      | none => .error (.notFound path)
  | none => .ok (discover world)

/-- The definition at a source, or the built-in one. -/
def ofSource (world : World) : Option (String × FileEntry) → Except ConfigError SiteDefinition
  | some (path, entry) => ofFile world path entry
  | none => .ok builtin

def override (overrides : Overrides) (definition : SiteDefinition) : SiteDefinition :=
  { definition with
    site := { definition.site with
      base := overrides.base.getD definition.site.base
      title := overrides.title.getD definition.site.title } }

/-- The definition of a given file, of the nearest one or built in, overridden and checked. -/
def load (world : World) (config : Option String) (overrides : Overrides) :
    Except ConfigError SiteDefinition := do
  let source ← source? world config
  let definition ← ofSource world source
  let definition := definition.override overrides
  definition.site.validate.mapError .validation
  return definition

end SiteDefinition

end LocaleSite
