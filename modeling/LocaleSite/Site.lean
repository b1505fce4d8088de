import LocaleSite.KeyMap
import LocaleSite.Site.Error
import LocaleSite.Text.Blank

/-!
# Composing a site

A site is its shared settings and its locales. The root locale stands under the key `root`, every
other one under its id. `Site.compose` admits a set of locales in which the ids are distinct path
segments, one locale is the root, every navigation bar is valid, and no two locales can use one
path: a locale other than the root keeps to its own directory, and the root locale keeps out of
the directories of the others.
-/

namespace LocaleSite

/-- A composed site. -/
structure Site where
  base : BaseConfig
  locales : KeyMap LocaleBlock

namespace LocaleBlock

def rootKey : String := "root"

/-- The key under which a locale is published. -/
def key (block : LocaleBlock) : String := if block.root then rootKey else block.id

/-- Whether an id can be a segment of a path: not empty, without slash and blank. -/
def isSegment (id : String) : Bool :=
  !id.isEmpty && id.toList.all fun c => c != '/' && !Text.isBlank c

/-- The paths of the site that a locale uses, each with its role: links that stay on the site,
then highlight patterns, then sidebar bases. -/
def routedPaths (block : LocaleBlock) : List (PathRole × String) :=
  (block.nav.links.filter fun link => !Route.isExternal link).map (PathRole.navLink, ·) ++
    block.nav.activeMatches.map (PathRole.activeMatch, ·) ++
    block.sidebar.keys.map (PathRole.sidebarBase, ·)

/-- Check that a path keeps to the routes of its locale, `others` being the ids of all locales
but the root. -/
def checkPath (block : LocaleBlock) (others : List String) (path : PathRole × String) :
    Except ComposeError Unit :=
  if block.root then
    match others.find? fun other => Route.isUnder other path.2 with
    | some other => .error (.foreignPrefix block.id other path.1 path.2)
    | none => .ok ()
  else if Route.isUnder block.id path.2 then .ok ()
  else .error (.unprefixed block.id path.1 path.2)

/-- Check that all paths keep to the routes of the locale. -/
def checkPaths (block : LocaleBlock) (others : List String) : Except ComposeError Unit :=
  block.routedPaths.forM (block.checkPath others)

/-- Check the navigation bar and the paths of a locale. -/
def check (isPattern : String → Bool) (others : List String) (block : LocaleBlock) :
    Except ComposeError Unit := do
  (block.nav.validate isPattern).mapError (.nav block.id)
  block.checkPaths others

/-- The locale with the title and the footer of the settings where it has none. -/
def inherit (base : BaseConfig) (block : LocaleBlock) : LocaleBlock :=
  { block with
    title := some (block.title.getD base.title)
    footer := block.footer.orElse fun _ => base.footer }

end LocaleBlock

namespace Site

/-- Check the ids of locales one after the other, `earlier` being those of the locales before. -/
def checkIds (earlier : List String) : List LocaleBlock → Except ComposeError Unit
  | [] => .ok ()
  | block :: rest =>
      if !LocaleBlock.isSegment block.id then .error (.invalidLocaleId block.id)
      else if !block.root && block.id == LocaleBlock.rootKey then .error .reservedLocaleId
      else if earlier.contains block.id then .error (.duplicateLocale block.id)
      else checkIds (block.id :: earlier) rest

def checkRoots (blocks : List LocaleBlock) : Except ComposeError Unit :=
  match blocks.filter (·.root) with
  | [] => .error .missingRoot
  | [_] => .ok ()
  | first :: second :: _ => .error (.multipleRoots first.id second.id)

/-- Check the ids of all locales and that one is the root. -/
def checkSet (blocks : List LocaleBlock) : Except ComposeError Unit := do
  if blocks.isEmpty then throw .noLocales
  checkIds [] blocks
  checkRoots blocks

/-- The ids of the locales that have directories of their own. -/
def directoryIds (blocks : List LocaleBlock) : List String :=
  (blocks.filter fun block => !block.root).map (·.id)

/-- The site of settings and locales, if they go together. -/
def compose (isPattern : String → Bool) (base : BaseConfig) (blocks : List LocaleBlock) :
    Except ComposeError Site := do
  base.validate.mapError .base
  checkSet blocks
  blocks.forM (LocaleBlock.check isPattern (directoryIds blocks))
  return ⟨base, .ofList (blocks.map fun block => (block.key, block.inherit base))⟩

def buildLocales (isPattern : String → Bool) (labels : List LocaleLabels) (date : Date) :
    Except ComposeError (List LocaleBlock) :=
  labels.mapM fun entry => (entry.build isPattern date).mapError (.ofLocale entry.id)

/-- The site of settings and labels, dated. -/
def composeLabels (isPattern : String → Bool) (base : BaseConfig) (labels : List LocaleLabels)
    (date : Date) : Except ComposeError Site := do
  let blocks ← buildLocales isPattern labels date
  compose isPattern base blocks

def locale? (site : Site) (key : String) : Option LocaleBlock := site.locales.get? key

def root? (site : Site) : Option LocaleBlock := site.locale? LocaleBlock.rootKey

end Site

end LocaleSite
