import LocaleSite.Route
import LocaleSite.Shape.Record

/-!
# Settings shared by all locales

A `BaseConfig` holds what does not depend on a locale: where the site is deployed, its title, the
switches of the renderer, social links, search and a footer for locales without their own.
-/

namespace LocaleSite

/-- The icons the renderer has. -/
inductive SocialIcon where
  | github
  | discord
  | mastodon
  | x
  | youtube
deriving DecidableEq, Repr, Inhabited

/-- The ways to search the site. -/
inductive SearchProvider where
  | onDevice
  | algolia
deriving DecidableEq, Repr, Inhabited

/-- A link shown as an icon. -/
structure SocialLink where
  icon : SocialIcon
  link : String
deriving DecidableEq, Repr, Inhabited

/-- Search settings. -/
structure SearchConfig where
  provider : SearchProvider
deriving DecidableEq, Repr, Inhabited

/-- A footer of up to two lines. -/
structure Footer where
  message : Option String
  copyright : Option String
deriving DecidableEq, Repr, Inhabited

/-- Settings that do not depend on a locale. -/
structure BaseConfig where
  /-- The path the site is deployed under. -/
  base : String
  title : String
  description : Option String
  lastUpdated : Bool
  cleanUrls : Bool
  metaChunk : Bool
  socialLinks : List SocialLink
  search : SearchConfig
  /-- The footer of locales without one. -/
  footer : Option Footer
deriving DecidableEq, Repr

/-- Why the settings cannot be used. -/
inductive BaseError where
  | unwrappedBase (base : String)
  | emptyTitle
  | foreignScheme
deriving DecidableEq, Repr

/-- The text shown for settings that cannot be used. -/
def BaseError.message : BaseError → String
  | .unwrappedBase base => s!"site.base must start and end with '/', got '{base}'"
  | .emptyTitle => "site.title cannot be empty"
  | .foreignScheme => "site.social_links.link must start with http:// or https://"

/-- Whether a link has the scheme http or https. -/
def SocialLink.isWeb (social : SocialLink) : Bool :=
  Route.startsWith social.link "http://" || Route.startsWith social.link "https://"

namespace BaseConfig

/-- The settings of a document that gives none. -/
def initial : BaseConfig where
  base := "/"
  title := ""
  description := none
  lastUpdated := false
  cleanUrls := false
  metaChunk := false
  socialLinks := []
  search := ⟨.onDevice⟩
  footer := none

instance : Inhabited BaseConfig := ⟨initial⟩

/-- Whether the base path has a slash at either end. -/
def isWrapped (base : String) : Bool :=
  base.toList.head? == some '/' && base.toList.getLast? == some '/'

/-- Check the base path, then the title, then the social links. -/
def validate (config : BaseConfig) : Except BaseError Unit :=
  if !isWrapped config.base then .error (.unwrappedBase config.base)
  else if config.title.isEmpty then .error .emptyTitle
  else if config.socialLinks.any (!·.isWeb) then .error .foreignScheme
  else .ok ()

end BaseConfig

/-! ## Documents -/

namespace SocialIcon

def names : List (String × SocialIcon) :=
  [("github", .github), ("discord", .discord), ("mastodon", .mastodon), ("x", .x),
    ("youtube", .youtube)]

def name : SocialIcon → String
  | .github => "github"
  | .discord => "discord"
  | .mastodon => "mastodon"
  | .x => "x"
  | .youtube => "youtube"

def shape : Shape SocialIcon := .variant names

end SocialIcon

namespace SearchProvider

def names : List (String × SearchProvider) := [("local", .onDevice), ("algolia", .algolia)]

def name : SearchProvider → String
  | .onDevice => "local"
  | .algolia => "algolia"

def shape : Shape SearchProvider := .variant names

end SearchProvider

namespace SocialLink

def toValue (social : SocialLink) : Value :=
  .table [("icon", .string social.icon.name), ("link", .string social.link)]

def shape : Shape SocialLink :=
  Record.start SocialLink.mk
    |>.field (.required "icon" SocialIcon.shape)
    |>.field (.required "link" .text)
    |>.shape "SocialLink"

end SocialLink

namespace SearchConfig

def toValue (search : SearchConfig) : Value := .table [("provider", .string search.provider.name)]

def shape : Shape SearchConfig :=
  Record.start SearchConfig.mk
    |>.field (.required "provider" SearchProvider.shape)
    |>.shape "SearchConfig"

end SearchConfig

namespace Footer

def toValue (footer : Footer) : Value :=
  .ofFields [("message", footer.message.map .string), ("copyright", footer.copyright.map .string)]

def shape : Shape Footer :=
  Record.start Footer.mk
    |>.field (.nullable "message" .text)
    |>.field (.nullable "copyright" .text)
    |>.shape "Footer"

end Footer

namespace BaseConfig

/-- The settings as the entries of a table, those without a value left out. -/
def fields (config : BaseConfig) : List (String × Option Value) :=
  [("base", some (.string config.base)), ("title", some (.string config.title)),
    ("description", config.description.map .string),
    ("last_updated", some (.bool config.lastUpdated)),
    ("clean_urls", some (.bool config.cleanUrls)), ("meta_chunk", some (.bool config.metaChunk)),
    ("social_links", some (.list (config.socialLinks.map SocialLink.toValue))),
    ("search", some config.search.toValue), ("footer", config.footer.map Footer.toValue)]

def toValue (config : BaseConfig) : Value := .ofFields config.fields

/-- The settings; each has its initial value where it is absent. -/
def shape : Shape BaseConfig :=
  Record.start BaseConfig.mk
    |>.field (.withDefault "base" .text initial.base)
    |>.field (.withDefault "title" .text initial.title)
    |>.field (.optional "description" .text)
    |>.field (.withDefault "last_updated" .flag initial.lastUpdated)
    |>.field (.withDefault "clean_urls" .flag initial.cleanUrls)
    |>.field (.withDefault "meta_chunk" .flag initial.metaChunk)
    |>.field (.withDefault "social_links" SocialLink.shape.list initial.socialLinks)
    |>.field (.withDefault "search" SearchConfig.shape initial.search)
    |>.field (.optional "footer" Footer.shape)
    |>.shape "BaseConfig"

end BaseConfig

end LocaleSite
