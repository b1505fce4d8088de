import LocaleSite.Base
import LocaleSite.Locale

/-!
# Why a site cannot be composed
-/

namespace LocaleSite

/-- The roles in which a locale uses a path. -/
inductive PathRole where
  | navLink
  | activeMatch
  | sidebarBase
deriving DecidableEq, Repr

def PathRole.name : PathRole → String
  | .navLink => "nav link"
  | .activeMatch => "activeMatch"
  | .sidebarBase => "sidebar base"

/-- Why a site cannot be composed. -/
inductive ComposeError where
  | noLocales
  | missingRoot
  | multipleRoots (first second : String)
  | duplicateLocale (id : String)
  | reservedLocaleId
  | invalidLocaleId (id : String)
  | unknownSection (locale name : String)
  /-- A path of a locale other than the root lies outside the locale's directory. -/
  | unprefixed (locale : String) (role : PathRole) (path : String)
  /-- A path of the root locale lies in the directory of another locale. -/
  | foreignPrefix (locale other : String) (role : PathRole) (path : String)
  | nav (locale : String) (error : NavError)
  | base (error : BaseError)
deriving DecidableEq, Repr

namespace ComposeError

/-- The fault of a locale that cannot be built. -/
def ofLocale (locale : String) : LocaleError → ComposeError
  | .unknownSection name => .unknownSection locale name
  | .nav error => .nav locale error

def message : ComposeError → String
  | .noLocales => "no locales declared"
  | .missingRoot => "no locale is marked as root"
  | .multipleRoots first second => s!"locales '{first}' and '{second}' are both marked as root"
  | .duplicateLocale id => s!"duplicate locale id '{id}'"
  | .reservedLocaleId => "locale id 'root' is reserved for the root locale"
  | .invalidLocaleId id => s!"invalid locale id '{id}'"
  | .unknownSection locale name => s!"locale '{locale}' refers to unknown section '{name}'"
  | .unprefixed locale role path =>
      s!"locale '{locale}': {role.name} '{path}' is not under /{locale}/"
  | .foreignPrefix locale other role path =>
      s!"root locale '{locale}': {role.name} '{path}' is under /{other}/"
  | .nav locale error => s!"locale '{locale}': {error.message}"
  | .base error => s!"Configuration error: {error.message}"

end ComposeError

end LocaleSite
