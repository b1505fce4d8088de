import LocaleSite.Date
import LocaleSite.Labels
import LocaleSite.Sidebar

/-!
# Building a locale

A `LocaleBlock` is a locale with its navigation bar and sidebar, ready to be published.
`LocaleLabels.build` makes it from labels and a date. The root locale's routes begin at the top of
the site, those of another locale in the directory named by its id.
-/

namespace LocaleSite

/-- A locale with its navigation bar and its sidebar. -/
structure LocaleBlock where
  id : String
  /-- Whether the locale is published without a path of its own. -/
  root : Bool
  label : String
  lang : String
  description : String
  /-- The title of the site in this locale, if it has its own. -/
  title : Option String
  nav : NavTree
  sidebar : Sidebar
  editLink : Option EditLink
  /-- The footer of the locale, if it has its own. -/
  footer : Option Footer
deriving Inhabited

/-- Why a locale cannot be built from its labels. -/
inductive LocaleError where
  /-- The navigation bar leads to a section that is not declared. -/
  | unknownSection (name : String)
  /-- The navigation bar or the sidebar is faulty. -/
  | nav (error : NavError)
deriving DecidableEq, Repr

namespace LocaleLabels

/-- What all routes of the locale begin with: nothing for the root locale. -/
def routeStart (labels : LocaleLabels) : String := if labels.root then "" else "/" ++ labels.id

/-- The route root of a section. -/
def sectionRoot (labels : LocaleLabels) (dir : String) : String :=
  labels.routeStart ++ Route.root dir

/-- The route root of a section that is declared. -/
def declaredRoot (labels : LocaleLabels) (dir : String) : Except LocaleError String :=
  if labels.sections.any (·.dir == dir) then .ok (labels.sectionRoot dir)
  else .error (.unknownSection dir)

/-- The text of the first entry of the navigation bar. -/
def groupText (labels : LocaleLabels) (date : Date) : String :=
  labels.nav.group.text ++ "(" ++ date.toText ++ ")"

/-- The first entry of the navigation bar, the menu of pages below a route root. -/
def groupItem (labels : LocaleLabels) (date : Date) (root : String) : NavItem :=
  .group (labels.groupText date)
    (labels.nav.group.pages.map fun page => .leaf page.text (root ++ page.page) none)
    (some root)

/-- The entry for a link to a page of a declared section. -/
def linkItem (labels : LocaleLabels) (link : NavLinkLabel) : Except LocaleError NavItem := do
  let root ← labels.declaredRoot link.sectionDir
  return .leaf link.text (root ++ link.page) none

/-- The navigation bar: the dated menu, the links, then the entries taken as they are. -/
def buildNav (isPattern : String → Bool) (labels : LocaleLabels) (date : Date) :
    Except LocaleError NavTree := do
  let root ← labels.declaredRoot labels.nav.group.sectionDir
  let links ← labels.nav.links.mapM labels.linkItem
  let tree : NavTree := ⟨labels.groupItem date root :: links ++ labels.nav.extra⟩
  (tree.validate isPattern).mapError .nav
  return tree

/-- The sidebar's section for a section of the labels. -/
def sidebarSection (labels : LocaleLabels) (entry : SectionLabels) : SidebarSection where
  base := labels.sectionRoot entry.dir
  text := entry.title
  collapsed := entry.collapsed
  items := entry.pages.map fun page => ⟨page.text, page.page⟩

/-- The sidebar: one section for each section of the labels. -/
def buildSidebar (labels : LocaleLabels) : Except LocaleError Sidebar :=
  (Sidebar.ofList (labels.sections.map labels.sidebarSection)).mapError .nav

/-- The locale of the labels, dated. -/
def build (isPattern : String → Bool) (labels : LocaleLabels) (date : Date) :
    Except LocaleError LocaleBlock := do
  let nav ← labels.buildNav isPattern date
  let sidebar ← labels.buildSidebar
  return {
    id := labels.id
    root := labels.root
    label := labels.label
    lang := labels.lang
    description := labels.description
    title := labels.title
    nav := nav
    sidebar := sidebar
    editLink := labels.editLink
    footer := labels.footer }

end LocaleLabels

end LocaleSite
