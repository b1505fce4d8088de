import LocaleSite.Base
import LocaleSite.Nav.Encoding

/-!
# Labels of a locale

`LocaleLabels` is what the author of a locale writes down: the texts shown, the sections with
their pages, and the pages that the navigation bar leads to. A page is named by its section and
its slug; paths are made from these when the locale is built.
-/

namespace LocaleSite

/-- A page of a section: the text shown and the last part of its path. -/
structure PageLabel where
  text : String
  page : String
deriving DecidableEq, Repr, Inhabited

/-- A link of the navigation bar to a page of a section. -/
structure NavLinkLabel where
  text : String
  sectionDir : String
  page : String
deriving DecidableEq, Repr, Inhabited

/-- The first entry of the navigation bar, a menu of pages of one section. -/
structure NavGroupLabels where
  /-- Shown with the date after it. -/
  text : String
  /-- The section whose paths highlight the entry. -/
  sectionDir : String
  pages : List PageLabel
deriving DecidableEq, Repr, Inhabited

/-- What the navigation bar shows: a dated menu, then links, then entries taken as they are. -/
structure NavLabels where
  group : NavGroupLabels
  links : List NavLinkLabel
  extra : List NavItem
deriving Repr, Inhabited

/-- A section of the sidebar. -/
structure SectionLabels where
  /-- The directory of its pages below the root of the locale. -/
  dir : String
  title : String
  collapsed : Bool
  pages : List PageLabel
deriving DecidableEq, Repr, Inhabited

/-- The link to edit a page; the renderer puts the page's path for `:path` in the pattern. -/
structure EditLink where
  pattern : String
  text : String
deriving DecidableEq, Repr, Inhabited

/-- Texts and pages of one locale. -/
structure LocaleLabels where
  id : String
  /-- Whether the locale is published without a path of its own. -/
  root : Bool
  label : String
  lang : String
  description : String
  title : Option String
  nav : NavLabels
  sections : List SectionLabels
  editLink : Option EditLink
  footer : Option Footer
deriving Repr, Inhabited

/-! ## Documents -/

def PageLabel.shape : Shape PageLabel :=
  Record.start PageLabel.mk
    |>.field (.required "text" .text)
    |>.field (.required "page" .text)
    |>.shape "PageLabel"

def NavLinkLabel.shape : Shape NavLinkLabel :=
  Record.start NavLinkLabel.mk
    |>.field (.required "text" .text)
    |>.field (.required "section" .text)
    |>.field (.required "page" .text)
    |>.shape "NavLinkLabel"

def NavGroupLabels.shape : Shape NavGroupLabels :=
  Record.start NavGroupLabels.mk
    |>.field (.required "text" .text)
    |>.field (.required "section" .text)
    |>.field (.required "pages" PageLabel.shape.list)
    |>.shape "NavGroupLabels"

def NavLabels.shape : Shape NavLabels :=
  Record.start NavLabels.mk
    |>.field (.required "group" NavGroupLabels.shape)
    |>.field (.withDefault "links" NavLinkLabel.shape.list [])
    |>.field (.withDefault "extra" NavItem.shape.list [])
    |>.shape "NavLabels"

def SectionLabels.shape : Shape SectionLabels :=
  Record.start SectionLabels.mk
    |>.field (.required "dir" .text)
    |>.field (.required "title" .text)
    |>.field (.withDefault "collapsed" .flag false)
    |>.field (.required "pages" PageLabel.shape.list)
    |>.shape "SectionLabels"

def EditLink.shape : Shape EditLink :=
  Record.start EditLink.mk
    |>.field (.required "pattern" .text)
    |>.field (.required "text" .text)
    |>.shape "EditLink"

/-- The link to edit a page as a document value. -/
def EditLink.toValue (edit : EditLink) : Value :=
  .table [("pattern", .string edit.pattern), ("text", .string edit.text)]

def LocaleLabels.shape : Shape LocaleLabels :=
  Record.start LocaleLabels.mk
    |>.field (.required "id" .text)
    |>.field (.withDefault "root" .flag false)
    |>.field (.required "label" .text)
    |>.field (.required "lang" .text)
    |>.field (.required "description" .text)
    |>.field (.optional "title" .text)
    |>.field (.required "nav" NavLabels.shape)
    |>.field (.withDefault "sections" SectionLabels.shape.list [])
    |>.field (.optional "edit_link" EditLink.shape)
    |>.field (.optional "footer" Footer.shape)
    |>.shape "LocaleLabels"

end LocaleSite
